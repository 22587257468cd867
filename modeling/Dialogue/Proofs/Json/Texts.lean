import Dialogue.Proofs.Json.Suffix
import Dialogue.Proofs.Json.Written
/-!
Objects of texts, and of templates. What is filled into the JSON text of an object of templates
stands between quotes from then on; it is read as it was if it is inert.
-/
namespace Dialogue.Json

open Dialogue.Text Dialogue.Template

/-- The entries of an object of texts, by what stands between the quotes. -/
def entriesText : List (List Char × List Char) → List Char
  | [] => []
  | [(key, text)] => '"' :: (key ++ '"' :: ':' :: ' ' :: '"' :: (text ++ ['"']))
  | (key, text) :: entry :: entries =>
      '"' :: (key ++ '"' :: ':' :: ' ' :: '"' :: (text ++ '"' :: ',' :: ' ' ::
        entriesText (entry :: entries)))

def objectText (entries : List (List Char × List Char)) : List Char :=
  '\x7b' :: (entriesText entries ++ ['\x7d'])

section Entries

variable {entries : List (List Char × List Char)}

theorem plainBraces_cons {c : Char} (h : c ∉ ['%', '7', 'B', 'D']) (cs : List Char) :
    plainBraces (c :: cs) = c :: plainBraces cs := plainBraces_append h [] cs

/-- Marks keep coded braces apart. -/
theorem plainBraces_objectText (entries : List (List Char × List Char)) :
    plainBraces (objectText entries) =
      objectText (entries.map fun entry => (plainBraces entry.1, plainBraces entry.2)) := by
  have hquote : '"' ∉ ['%', '7', 'B', 'D'] := by decide
  have hopen : '\x7b' ∉ ['%', '7', 'B', 'D'] := by decide
  have hclose : plainBraces ['\x7d'] = ['\x7d'] := plainBraces_of_plain (by decide)
  have hcolon : ':' ∉ ['%', '7', 'B', 'D'] := by decide
  have hblank : ' ' ∉ ['%', '7', 'B', 'D'] := by decide
  have hcomma : ',' ∉ ['%', '7', 'B', 'D'] := by decide
  rw [objectText, objectText, plainBraces_cons hopen]
  congr 1
  fun_induction entriesText entries with
  | case1 => exact hclose
  | case2 key text =>
      simp [entriesText, plainBraces_cons, plainBraces_append, hquote, hcolon, hblank, hclose]
  | case3 key text entry entries ih =>
      simp only [List.map_cons] at ih
      simp [entriesText, plainBraces_cons, plainBraces_append, hquote, hcolon, hblank, hcomma, ih]

/-- An object of texts is read entry by entry. -/
theorem spellsFields_entriesText {α : Type} {raw said : α → List Char × List Char} {items : List α}
    (h : ∀ a ∈ items, Quotes (raw a).1 (said a).1 ∧ Quotes (raw a).2 (said a).2)
    (hne : items ≠ []) :
    SpellsFields (entriesText (items.map raw)) (items.map fun a =>
      (String.ofList (said a).1, .text (String.ofList (said a).2))) := by
  have hgap : IsGap [' '] := by
    intro c hc
    rw [List.mem_singleton.1 hc]
    rfl
  induction items with
  | nil => exact absurd rfl hne
  | cons a items ih =>
      obtain ⟨hkey, htext⟩ := h a List.mem_cons_self
      cases items with
      | nil => simpa [entriesText] using
          SpellsFields.last hkey isGap_nil hgap (.text htext) isGap_nil
      | cons b items =>
          have hrest := ih (fun c hc => h c (List.mem_cons_of_mem a hc)) nofun
          simpa [entriesText] using
            SpellsFields.more hkey isGap_nil hgap (.text htext) isGap_nil hgap hrest

theorem read_objectText {α : Type} (raw said : α → List Char × List Char) {items : List α}
    (h : ∀ a ∈ items, Quotes (raw a).1 (said a).1 ∧ Quotes (raw a).2 (said a).2)
    (hkeys : (items.map fun a => String.ofList (said a).1).Nodup) :
    Json.read (String.ofList (objectText (items.map raw))) =
      .ok (.object (items.map fun a =>
        (String.ofList (said a).1, .text (String.ofList (said a).2)))) := by
  suffices hspells : Spells (objectText (items.map raw)) (.object (items.map fun a =>
      (String.ofList (said a).1, .text (String.ofList (said a).2)))) by
    simpa using hspells.read_eq isGap_nil isGap_nil
  by_cases hne : items = []
  · rw [hne]
    exact .emptyObject isGap_nil
  · have hobject := Spells.object isGap_nil (spellsFields_entriesText h hne)
    have hnodup : (Mapping.keys (items.map fun a =>
        (String.ofList (said a).1, Value.text (String.ofList (said a).2)))).Nodup := by
      rw [Mapping.keys, List.map_map]
      exact hkeys
    rwa [Mapping.ofEntries_of_nodup hnodup] at hobject

theorem writeFields_texts {α : Type} (name text : α → String) (depth : Nat) (items : List α) :
    writeFields spaced depth (items.map fun a => (name a, .text (text a))) =
      .ok (entriesText (items.map fun a =>
        ((name a).toList.flatMap escape, (text a).toList.flatMap escape))) := by
  induction items with
  | nil => rfl
  | cons a items ih =>
      cases items with
      | nil => simp [writeFields, writeValue, entriesText, quote, spaced, bind, Except.bind, pure,
          Except.pure]
      | cons b items =>
          simp only [List.map_cons] at ih ⊢
          rw [writeFields, ih]
          · simp [writeValue, entriesText, quote, spaced, bind, Except.bind, pure, Except.pure]
          · simp

/-- This is how an object of texts is written. -/
theorem write_texts {α : Type} (name text : α → String) (items : List α) :
    write spaced (.object (items.map fun a => (name a, .text (text a)))) =
      .ok (String.ofList (objectText (items.map fun a =>
        ((name a).toList.flatMap escape, (text a).toList.flatMap escape)))) := by
  have hclosing : spaced.closing 0 (items.map fun a => (name a, Value.text (text a))) = [] := by
    unfold Style.closing
    split <;> rfl
  simp only [write, writeValue, writeFields_texts, hclosing, List.append_nil]
  rfl

/-- The entries of an object of templates. -/
def entriesPieces : List (List Char × List Piece) → List Piece
  | [] => []
  | [(key, pieces)] =>
      ('"' :: (key ++ ['"', ':', ' ', '"'])).map .plain ++ (pieces ++ [.plain '"'])
  | (key, pieces) :: entry :: entries =>
      ('"' :: (key ++ ['"', ':', ' ', '"'])).map .plain ++
        (pieces ++ .plain '"' :: .plain ',' :: .plain ' ' :: entriesPieces (entry :: entries))

theorem filled_entriesPieces {encodeQuery : Bool} {texts : List Char → Option (List Char)}
    (before : Option Char) (entries : List (List Char × List Piece)) :
    filled encodeQuery texts before (entriesPieces entries) =
      entriesText (entries.map fun entry => (entry.1, filled encodeQuery texts none entry.2)) := by
  have hlast (key : List Char) (before : Option Char) :
      Template.isMark (('"' :: (key ++ ['"', ':', ' ', '"'])).getLast?.or before) =
        Template.isMark none := by
    simp [List.getLast?_cons, List.getLast?_append, Template.isMark]
  fun_induction entriesPieces entries generalizing before with
  | case1 => rfl
  | case2 key pieces =>
      rw [filled_plain, filled_congr (hlast key _), filled_append_plain]
      simp [entriesText, filled]
  | case3 key pieces entry entries ih =>
      rw [filled_plain, filled_congr (hlast key _), filled_append_plain, filled, filled, ih]
      simp [entriesText]

theorem written_entriesPieces (entries : List (List Char × List Piece)) :
    written (entriesPieces entries) =
      entriesText (entries.map fun entry => (entry.1, written entry.2)) := by
  rw [← @filled_none false none, filled_entriesPieces]
  simp only [filled_none]

theorem forall_mem_entriesPieces {P : Piece → Prop} {entries : List (List Char × List Piece)}
    (hmark : ∀ c ∈ ['"', ':', ' ', ','], P (.plain c))
    (h : ∀ entry ∈ entries, (∀ c ∈ entry.1, P (.plain c)) ∧ ∀ piece ∈ entry.2, P piece) :
    ∀ piece ∈ entriesPieces entries, P piece := by
  simp only [List.forall_mem_cons, List.not_mem_nil, false_implies, implies_true, and_true] at hmark
  obtain ⟨hquote, hcolon, hblank, hcomma⟩ := hmark
  have hopening {key : List Char} (hkey : ∀ c ∈ key, P (.plain c)) :
      ∀ piece ∈ ('"' :: (key ++ ['"', ':', ' ', '"'])).map Piece.plain, P piece := by
    simpa [or_imp, forall_and, hquote, hcolon, hblank] using hkey
  fun_induction entriesPieces entries with
  | case1 => exact nofun
  | case2 key pieces =>
      obtain ⟨hkey, hpieces⟩ := h (key, pieces) List.mem_cons_self
      exact List.forall_mem_append.2 ⟨hopening hkey, List.forall_mem_append.2
        ⟨hpieces, by simpa using hquote⟩⟩
  | case3 key pieces entry entries ih =>
      obtain ⟨hkey, hpieces⟩ := h (key, pieces) List.mem_cons_self
      have hrest := ih fun other hother => h other (List.mem_cons_of_mem _ hother)
      exact List.forall_mem_append.2 ⟨hopening hkey, List.forall_mem_append.2
        ⟨hpieces, by simpa [hquote, hcomma, hblank] using hrest⟩⟩

end Entries

section Filling

variable {data : Value} {texts : List Char → Option (List Char)}
  {entries : List (List Char × List Piece)} {encodeQuery : Bool}

theorem fillParts_append {front back : List (Char ⊕ Placeholder)} {a b : List Char}
    (hfront : fillParts encodeQuery data front = .ok a)
    (hback : fillParts encodeQuery data back = .ok b) :
    fillParts encodeQuery data (front ++ back) = .ok (a ++ b) := by
  induction front generalizing a with
  | nil =>
      cases hfront
      exact hback
  | cons part front ih =>
      cases part with
      | inl c =>
          obtain ⟨rest, hrest, ha⟩ := exists_of_bind_ok hfront
          cases ha
          rw [List.cons_append, fillParts, ih hrest]
          rfl
      | inr p =>
          obtain ⟨text, htext, hfront⟩ := exists_of_bind_ok hfront
          obtain ⟨rest, hrest, ha⟩ := exists_of_bind_ok hfront
          cases ha
          rw [List.cons_append, fillParts, htext, ih hrest, List.append_assoc]
          rfl

/-- The brace of an object opens no hole, since no path begins with what comes after it. -/
theorem placeholder_object (before : Option Char) {d : Char} (hends : endsPath d = true)
    (hopen : d ≠ '\x7b') (rest : List Char) : placeholder before ('\x7b' :: d :: rest) = none := by
  have hrun : run? endsPath ['\x7d'] (d :: rest) = none := by simp [run?, hends]
  have hdouble : double? ('\x7b' :: d :: rest) = none := by simp [double?, hopen]
  have hsingle : single? ('\x7b' :: d :: rest) = none := hrun
  simp [placeholder, hdouble, hsingle]

/-- The JSON text of templates is filled in entry by entry. -/
theorem fillText_objectText (hfits : ∀ piece ∈ entriesPieces entries, piece.Fits)
    (htexts : ∀ h, .hole h ∈ entriesPieces entries → data.textAt h.path = .ok (texts h.path))
    {template : List Char} (htemplate : plainBraces template =
      objectText (entries.map fun entry => (entry.1, written entry.2))) :
    fillText (String.ofList template) data false = .ok (String.ofList
      (objectText (entries.map fun entry => (entry.1, filled false texts none entry.2)))) := by
  obtain ⟨d, rest, hopen, hd⟩ : ∃ d rest, written (entriesPieces entries) ++ ['\x7d'] = d :: rest ∧
      endsPath d = true ∧ d ≠ '\x7b' := by
    match entries with
    | [] => exact ⟨'\x7d', [], rfl, by decide⟩
    | [entry] => exact ⟨'"', _, rfl, by decide⟩
    | entry :: other :: entries => exact ⟨'"', _, rfl, by decide⟩
  obtain ⟨last, hparts⟩ := partsFrom_written_append hfits (some '\x7b') ['\x7d']
  have hclose : partsFrom placeholder last 0 ['\x7d'] = [.inl '\x7d'] := rfl
  have hall : parts placeholder (plainBraces template) =
      .inl '\x7b' :: (found (some '\x7b') (entriesPieces entries) ++ [.inl '\x7d']) := by
    rw [htemplate, objectText, ← written_entriesPieces, parts, hopen, partsFrom,
      placeholder_object none hd.1 hd.2, ← hopen, hparts, hclose]
  have hfilled := fillParts_append (fillParts_found hfits htexts (some '\x7b'))
    (show fillParts false data [.inl '\x7d'] = .ok ['\x7d'] from rfl)
  rw [fillText, String.toList_ofList, hall]
  show (do return String.ofList (← fillParts false data (.inl '\x7b' :: _))) = _
  rw [fillParts, hfilled, filled_entriesPieces]
  rfl

end Filling

section Quoting

variable {texts : List Char → Option (List Char)} {pieces : List Piece}

theorem Quotes.append {a b s t : List Char} (ha : Quotes a s) (hb : Quotes b t) :
    Quotes (a ++ b) (s ++ t) := by
  induction ha with
  | nil => exact hb
  | plain hcontrol hquote hescape h ih => exact .plain hcontrol hquote hescape ih
  | simple hc h ih => exact .simple hc ih
  | code hn hhigh hlow h ih => exact .code hn hhigh hlow ih
  | pair hm hhigh hn hlow h ih => exact .pair hm hhigh hn hlow ih

theorem quotes_ascii (text : List Char) : Quotes (text.flatMap escapeAscii) text := by
  induction text with
  | nil => exact .nil
  | cons c text ih => exact quotes_escapeAscii c ih

theorem quotes_inert {text : List Char} (h : ∀ c ∈ text, isInert c = true) : Quotes text text := by
  induction text with
  | nil => exact .nil
  | cons c text ih =>
      have hc := h c List.mem_cons_self
      simp only [isInert, Bool.and_eq_true, decide_eq_true_eq, ne_eq] at hc
      exact .plain hc.1.1 hc.1.2 hc.2 (ih fun d hd => h d (List.mem_cons_of_mem c hd))

/-- What is filled into a quoted template is quoted too, if it is inert. -/
theorem quotes_filled (hascii : ∀ h, .hole h ∈ pieces → ∀ c ∈ h.inner, isInertAscii c = true)
    (hinert : ∀ h, .hole h ∈ pieces → ∀ text, texts h.path = some text →
      ∀ c ∈ text, isInert c = true) (before before' : Option Char) :
    Quotes (filled false texts before (pieces.flatMap quotedPiece))
      (filled false texts before' pieces) := by
  induction pieces generalizing before before' with
  | nil => exact .nil
  | cons piece pieces ih =>
      have hrest := ih (fun h hh => hascii h (List.mem_cons_of_mem _ hh))
        fun h hh => hinert h (List.mem_cons_of_mem _ hh)
      rw [List.flatMap_cons]
      cases piece with
      | plain c =>
          rw [quotedPiece, filled_plain, filled]
          exact quotes_escapeAscii c (hrest _ _)
      | hole h =>
          rw [quotedPiece, List.singleton_append, filled, filled]
          refine Quotes.append ?_ (hrest _ _)
          cases htext : texts h.path with
          | some text => exact quotes_inert (hinert h List.mem_cons_self text htext)
          | none =>
              refine quotes_inert fun c hc => ?_
              rcases Hole.mem_text hc with rfl | rfl | hc
              · decide
              · decide
              · have hc := hascii h List.mem_cons_self c hc
                simp only [isInertAscii, Bool.and_eq_true] at hc
                exact hc.1

end Quoting

section Reading

variable {text : List Char}

theorem readValue_of_readChars {v : Value} (h : readChars text = .ok v) :
    ∃ after, readValue (text.length + 1) (skipGaps 0 text) = .ok (v, after) := by
  unfold readChars at h
  split at h
  · cases h
  · obtain ⟨⟨found, after⟩, hfound, h⟩ := exists_of_bind_ok h
    dsimp only at h
    split at h
    · cases h
      exact ⟨after, hfound⟩
    · cases h

theorem readFields_of_read {fields : Mapping Value}
    (h : Json.read (String.ofList ('\x7b' :: '"' :: text)) = .ok (.object fields)) :
    ∃ entries after, readFields (text.length + 2) ⟨1, '"' :: text⟩ = .ok (entries, after) ∧
      fields = Mapping.ofEntries entries := by
  rw [Json.read, String.toList_ofList] at h
  cases hchars : readChars ('\x7b' :: '"' :: text) with
  | error refusal =>
      rw [hchars] at h
      cases h
  | ok v =>
      rw [hchars] at h
      obtain ⟨after, hafter⟩ := readValue_of_readChars hchars
      have hopens : Opens ('"' :: text) := ⟨'"', text, rfl, by decide⟩
      have hobject := @readValue_object [] _ isGap_nil hopens (text.length + 2) 0 [] _ rfl
      simp only [List.nil_append, List.append_nil, List.length_nil] at hobject
      cases hfields : readFields (text.length + 2) ⟨1, '"' :: text⟩ with
      | error refusal =>
          rw [hfields] at hobject
          cases hobject.symm.trans hafter
      | ok found =>
          rw [hfields] at hobject
          cases h
          cases hobject.symm.trans hafter
          exact ⟨found.1, found.2, rfl, rfl⟩

/-- Under a key that no field inside the text can have, what is read is a text; it is the text as it
was only if that is inert. -/
theorem read_longKey {name : List Char} {fields : Mapping Value} {v : Value}
    (hname : ∀ c ∈ name, isInert c = true) (hlong : text.length < name.length)
    (hread : Json.read (String.ofList (objectText [(name, text)])) = .ok (.object fields))
    (hmem : (String.ofList name, v) ∈ fields) :
    ∃ said, v = .text (String.ofList said) ∧ (said = text → ∀ c ∈ text, isInert c = true) := by
  have hopen : objectText [(name, text)] =
      '\x7b' :: '"' :: (name ++ '"' :: ':' :: ' ' :: '"' :: (text ++ ['"', '\x7d'])) := by
    simp [objectText, entriesText]
  rw [hopen] at hread
  obtain ⟨entries, after, hentries, rfl⟩ := readFields_of_read hread
  obtain ⟨cs, key, afterKey, w, afterValue, hcs, hkey, hw, hrest⟩ := readFields_cases hentries
  cases hcs
  rw [(quotes_inert hname).readText_eq] at hkey
  cases hkey
  obtain ⟨⟨said, last⟩, hsaid, hw⟩ := exists_of_bind_ok hw
  cases hw
  obtain ⟨body, hbody, htold⟩ := readText_saysUpTo hsaid
  have hlength := congrArg List.length hbody
  simp only [List.length_append, List.length_cons, List.length_nil] at hlength
  refine ⟨said, ?_, ?_⟩
  · have hentry := Mapping.mem_of_mem_ofEntries hmem
    obtain ⟨rfl, -⟩ | ⟨others, rfl, hothers⟩ := hrest
    · exact (Prod.mk.inj (List.mem_singleton.1 hentry)).2
    · rcases List.mem_cons.1 hentry with heq | hother
      · exact (Prod.mk.inj heq).2
      · have hkey := length_key_lt hothers _ hother
        have hpast := afterValue.pastMark_suffix.length_le
        rw [String.length_ofList] at hkey
        omega
  · rintro rfl
    rcases htold with ⟨rfl, hinert⟩ | hless
    · exact hinert
    · have hend : afterValue.rest = [] := List.eq_nil_of_length_eq_zero (by omega)
      have hlast := congrArg List.getLast? hbody
      simp [hend] at hlast

end Reading

end Dialogue.Json
