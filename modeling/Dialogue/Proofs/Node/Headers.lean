import Dialogue.Node.Request
import Dialogue.Proofs.Json.Texts
/-!
Headers in two notations. Written as an object their values are filled in one by one; written as
JSON text the text is filled in and read after that. What the slots say goes into the text as it is,
so both mean the same headers as long as no value has a meaning of its own between quotes.
-/
namespace Dialogue.Node.Headers

open Dialogue.Text Dialogue.Template Dialogue.Json

/-- A header with a template for its value, in whose holes only certain paths stand. -/
structure Header (used : Hole → Prop) where
  name : String
  template : String
  pieces : List Piece
  nameFree : BraceFree name.toList
  namePlain : plainBraces name.toList = name.toList
  cut : plainBraces template.toList = written pieces
  fits : ∀ piece ∈ pieces, piece.Fits
  holes : ∀ h, .hole h ∈ pieces → used h

/-- A hole that can stand alone and is the same between quotes, and whose path can be looked up. -/
structure Usable (slots : Slots) (h : Hole) : Prop where
  fits : h.Fits
  plain : plainBraces h.text = h.text
  ascii : ∀ c ∈ h.inner, isInertAscii c = true
  found : ∃ found, (Value.object slots).textAt h.path = .ok found

section Notations

variable {used : Hole → Prop} {slots : Slots}

/-- Headers as an object. -/
def objectOf (hs : List (Header used)) : Mapping Value := hs.map fun h => (h.name, .text h.template)

/-- Headers as JSON text in ASCII. -/
def jsonOf (hs : List (Header used)) : String := String.ofList (objectText (hs.map fun h =>
  (h.name.toList.flatMap escapeAscii, h.template.toList.flatMap escapeAscii)))

/-- Where all characters are ASCII, it is what is written for the object. -/
theorem write_objectOf {hs : List (Header used)}
    (hascii : ∀ h ∈ hs, ∀ c ∈ h.name.toList ++ h.template.toList, c.toNat < 127) :
    Json.write Json.spaced (.object (objectOf hs)) = .ok (jsonOf hs) := by
  have hescape {cs : List Char} (hcs : ∀ c ∈ cs, c.toNat < 127) :
      cs.flatMap escapeAscii = cs.flatMap escape :=
    List.flatMap_congr fun c hc => if_pos (hcs c hc)
  rw [objectOf, write_texts, jsonOf]
  refine congrArg (fun entries => Except.ok (String.ofList (objectText entries)))
    (List.map_congr_left fun h hh => ?_)
  obtain ⟨hname, htemplate⟩ := List.forall_mem_append.1 (hascii h hh)
  rw [hescape hname, hescape htemplate]

/-- What the slots say at a path. -/
def textOf (slots : Slots) (path : List Char) : Option (List Char) :=
  match (Value.object slots).textAt path with
  | .ok found => found
  | .error _ => none

theorem Usable.textAt_eq {h : Hole} (hu : Usable slots h) :
    (Value.object slots).textAt h.path = .ok (textOf slots h.path) := by
  obtain ⟨found, hfound⟩ := hu.found
  rw [textOf, hfound]

/-- The value of a header with the slots filled in. -/
def Header.value (slots : Slots) (h : Header used) : List Char :=
  filled false (textOf slots) none h.pieces

theorem fillText_template (hused : ∀ h, used h → Usable slots h) (h : Header used) :
    fillText h.template (.object slots) false = .ok (String.ofList (h.value slots)) := by
  have hfilled : fillText (String.ofList h.template.toList) (.object slots) false =
      .ok (String.ofList (h.value slots)) := fillText_written h.fits
    (fun hole hmem => (hused hole (h.holes hole hmem)).textAt_eq) h.cut
  rwa [String.ofList_toList] at hfilled

theorem fillFields_objectOf (hused : ∀ h, used h → Usable slots h) (hs : List (Header used)) :
    fillFields (.object slots) (objectOf hs) =
      .ok (hs.map fun h => (h.name, .text (String.ofList (h.value slots)))) := by
  induction hs with
  | nil => rfl
  | cons h hs ih =>
      rw [objectOf, List.map_cons, fillFields, fillValue, fillText_template hused, ← objectOf, ih]
      rfl

theorem braceFree_escapeAscii {cs : List Char} (h : BraceFree cs) :
    BraceFree (cs.flatMap escapeAscii) := by
  intro d hd
  obtain ⟨c, hc, hd⟩ := List.mem_flatMap.1 hd
  by_cases hascii : isInertAscii c = true
  · rw [escapeAscii_of_isInertAscii hascii] at hd
    exact List.mem_singleton.1 hd ▸ h c hc
  · exact ((escapeAscii_of_not (Bool.eq_false_iff.2 hascii)).2 d hd).2

/-- A header as an entry of the JSON text. -/
def Header.entry (h : Header used) : List Char × List Piece :=
  (h.name.toList.flatMap escapeAscii, h.pieces.flatMap quotedPiece)

theorem forall_mem_entries {P : Piece → Prop} {hs : List (Header used)}
    (hplain : ∀ c, isBrace c = false → P (.plain c)) (hhole : ∀ hole, used hole → P (.hole hole)) :
    ∀ piece ∈ entriesPieces (hs.map Header.entry), P piece := by
  have hmark : ∀ c ∈ ['"', ':', ' ', ','], isBrace c = false := by simp [isBrace]
  refine forall_mem_entriesPieces (fun c hc => hplain c (hmark c hc))
    (List.forall_mem_map.2 fun h _ => ⟨?_, ?_⟩)
  · exact fun c hc => hplain c (braceFree_escapeAscii h.nameFree c hc)
  · intro piece hpiece
    have hfits := fits_quoted h.fits piece hpiece
    cases piece with
    | plain c => exact hplain c hfits
    | hole hole => exact hhole hole (h.holes hole (hole_mem_quoted.1 hpiece))

theorem plainBraces_jsonOf (hused : ∀ h, used h → Usable slots h) (hs : List (Header used)) :
    plainBraces (jsonOf hs).toList =
      objectText ((hs.map Header.entry).map fun entry => (entry.1, written entry.2)) := by
  rw [jsonOf, String.toList_ofList, plainBraces_objectText, List.map_map, List.map_map]
  refine congrArg objectText (List.map_congr_left fun h _ => Prod.ext ?_ ?_)
  · exact (plainBraces_flatMap _).trans (congrArg _ h.namePlain)
  · show plainBraces (h.template.toList.flatMap escapeAscii) =
      written (h.pieces.flatMap quotedPiece)
    rw [plainBraces_flatMap, h.cut,
      written_quoted fun hole hmem => (hused hole (h.holes hole hmem)).ascii]

/-- The JSON text of headers with the slots filled in. -/
def filledJson (slots : Slots) (hs : List (Header used)) : String :=
  String.ofList (objectText (hs.map fun h =>
    (h.entry.1, filled false (textOf slots) none h.entry.2)))

theorem fillText_jsonOf (hused : ∀ h, used h → Usable slots h) (hs : List (Header used)) :
    fillText (jsonOf hs) (.object slots) false = .ok (filledJson slots hs) := by
  have hfits : ∀ piece ∈ entriesPieces (hs.map Header.entry), piece.Fits :=
    forall_mem_entries (fun _ hc => hc) fun hole hhole => (hused hole hhole).fits
  have htexts : ∀ piece ∈ entriesPieces (hs.map Header.entry), ∀ hole, piece = .hole hole →
      (Value.object slots).textAt hole.path = .ok (textOf slots hole.path) := by
    refine forall_mem_entries (fun _ _ _ => nofun) ?_
    rintro hole hhole _ ⟨⟩
    exact (hused hole hhole).textAt_eq
  have hfilled := fillText_objectText hfits (fun hole hmem => htexts _ hmem hole rfl)
    (plainBraces_jsonOf hused hs)
  rw [String.ofList_toList, List.map_map] at hfilled
  exact hfilled

theorem displayFields_texts {α : Type} (name text : α → String) (items : List α) :
    Prepared.displayFields (items.map fun a => (name a, .text (text a))) =
      .ok (items.map fun a => (name a, text a)) := by
  induction items with
  | nil => rfl
  | cons a items ih =>
      rw [List.map_cons, Prepared.displayFields, ih]
      rfl

theorem headers_objectOf (hused : ∀ h, used h → Usable slots h) (hs : List (Header used)) :
    Prepared.headers (.object (objectOf hs)) slots =
      .ok (hs.map fun h => (h.name, String.ofList (h.value slots))) := by
  cases hs with
  | nil => rfl
  | cons h hs =>
      have htruthy : (Value.object (objectOf (h :: hs))).truthy = true := rfl
      rw [Prepared.headers, htruthy]
      simp only [fillValue, fillFields_objectOf hused]
      exact displayFields_texts _ _ (h :: hs)

theorem headers_text_iff {s : String} (hs : s ≠ "") {found : Mapping String} :
    Prepared.headers (.text s) slots = .ok found ↔ ∃ fields,
      Prepared.readHeaders s slots = .ok (.object fields) ∧
        Prepared.displayFields fields = .ok found := by
  simp only [Prepared.headers, Value.truthy_text_iff.2 hs]
  cases hread : Prepared.readHeaders s slots with
  | error fault => exact ⟨nofun, nofun⟩
  | ok v =>
      cases v with
      | object fields => exact ⟨fun h => ⟨fields, rfl, h⟩, fun ⟨_, rfl, h⟩ => h⟩
      | _ => exact ⟨nofun, nofun⟩

theorem headers_jsonOf_iff (hused : ∀ h, used h → Usable slots h) {hs : List (Header used)}
    {found : Mapping String} :
    Prepared.headers (.text (jsonOf hs)) slots = .ok found ↔ ∃ fields,
      Json.read (filledJson slots hs) = .ok (.object fields) ∧
        Prepared.displayFields fields = .ok found := by
  have hne : jsonOf hs ≠ "" := by simp [jsonOf, objectText]
  have hread : Prepared.readHeaders (jsonOf hs) slots = Json.read (filledJson slots hs) := by
    rw [Prepared.readHeaders, fillText_jsonOf hused]
    rfl
  rw [headers_text_iff hne, hread]

/-- What the slots say where the holes stand is inert. -/
def Inert (used : Hole → Prop) (slots : Slots) : Prop :=
  ∀ h, used h → ∀ text, textOf slots h.path = some text → ∀ c ∈ text, isInert c = true

theorem headers_jsonOf_of_inert (hused : ∀ h, used h → Usable slots h) (hinert : Inert used slots)
    {hs : List (Header used)} (hnames : (hs.map Header.name).Nodup) :
    Prepared.headers (.text (jsonOf hs)) slots =
      .ok (hs.map fun h => (h.name, String.ofList (h.value slots))) := by
  have hread := read_objectText
    (fun h : Header used => (h.entry.1, filled false (textOf slots) none h.entry.2))
    (fun h => (h.name.toList, h.value slots))
    (fun h _ => ⟨quotes_ascii h.name.toList, quotes_filled
      (fun hole hmem => (hused hole (h.holes hole hmem)).ascii)
      (fun hole hmem => hinert hole (h.holes hole hmem)) none none⟩)
    (by simpa only [String.ofList_toList] using hnames)
  simp only [String.ofList_toList] at hread
  exact (headers_jsonOf_iff hused).2 ⟨_, hread, displayFields_texts _ _ hs⟩

theorem displayFields_singleton {fields : Mapping Value} {name text : String}
    (h : Prepared.displayFields fields = .ok [(name, text)]) :
    ∃ v, fields = [(name, v)] ∧ v.display = .ok text := by
  cases fields with
  | nil => cases h
  | cons field rest =>
      obtain ⟨shown, hshown, h⟩ := exists_of_bind_ok h
      obtain ⟨others, hothers, h⟩ := exists_of_bind_ok h
      cases h
      cases rest with
      | nil => exact ⟨field.2, rfl, hshown⟩
      | cons other rest =>
          obtain ⟨_, -, h⟩ := exists_of_bind_ok hothers
          obtain ⟨_, -, h⟩ := exists_of_bind_ok h
          cases h

/-- A header of one hole, with a name of `n` letters. -/
def Header.single {hole : Hole} (hused : used hole) (hu : Usable slots hole) (n : Nat) :
    Header used where
  name := String.ofList (List.replicate n 'X')
  template := String.ofList hole.text
  pieces := [.hole hole]
  nameFree := by
    rw [String.toList_ofList]
    intro c hc
    rw [List.eq_of_mem_replicate hc]
    rfl
  namePlain := by
    rw [String.toList_ofList]
    exact plainBraces_of_plain fun h => absurd (List.eq_of_mem_replicate h) (by decide)
  cut := by simpa [written, Piece.text] using hu.plain
  fits := List.forall_mem_singleton.2 hu.fits
  holes := by
    intro other hother
    cases List.mem_singleton.1 hother
    exact hused

theorem isInertAscii_letters (n : Nat) : ∀ c ∈ List.replicate n 'X', isInertAscii c = true := by
  intro c hc
  rw [List.eq_of_mem_replicate hc]
  decide

section Single

variable {hole : Hole} {text : List Char} {n : Nat}

theorem value_single (hhole : used hole) (hu : Usable slots hole)
    (htext : textOf slots hole.path = some text) :
    (Header.single hhole hu n).value slots = text := by
  simp [Header.value, Header.single, filled, htext, inserted]

theorem filledJson_single (hhole : used hole) (hu : Usable slots hole)
    (htext : textOf slots hole.path = some text) :
    filledJson slots [Header.single hhole hu n] =
      String.ofList (objectText [(List.replicate n 'X', text)]) := by
  simp [filledJson, Header.entry, flatMap_escapeAscii (isInertAscii_letters n), Header.single,
    quotedPiece, filled, htext, inserted]

end Single

theorem inert_of_headers_eq (hused : ∀ h, used h → Usable slots h)
    (heq : ∀ hs : List (Header used), (hs.map Header.name).Nodup →
      Prepared.headers (.text (jsonOf hs)) slots = Prepared.headers (.object (objectOf hs)) slots) :
    Inert used slots := by
  intro hole hhole text htext
  have hu := hused hole hhole
  -- no field inside the text can have a name that is longer than the text
  have hfound := heq [.single hhole hu (text.length + 1)] (List.nodup_singleton _)
  rw [headers_objectOf hused, headers_jsonOf_iff hused, filledJson_single hhole hu htext,
    List.map_singleton, value_single hhole hu htext] at hfound
  obtain ⟨fields, hread, hdisplay⟩ := hfound
  obtain ⟨v, rfl, hv⟩ := displayFields_singleton hdisplay
  have hname : ∀ c ∈ List.replicate (text.length + 1) 'X', isInert c = true := fun c hc =>
    (Bool.and_eq_true_iff.1 (isInertAscii_letters _ c hc)).1
  obtain ⟨said, rfl, hsaid⟩ := read_longKey hname (by simp) hread (List.mem_singleton.2 rfl)
  exact hsaid (String.ofList_inj.1 (Except.ok.inj hv))

/-- Both notations mean the same headers exactly if what is filled in is inert. -/
theorem notations_agree_iff (hused : ∀ h, used h → Usable slots h) :
    (∀ hs : List (Header used), (hs.map Header.name).Nodup →
      Prepared.headers (.text (jsonOf hs)) slots = Prepared.headers (.object (objectOf hs)) slots) ↔
    Inert used slots := by
  refine ⟨inert_of_headers_eq hused, fun hinert hs hnames => ?_⟩
  rw [headers_jsonOf_of_inert hused hinert hnames, headers_objectOf hused]

end Notations

namespace Sample

def nameHole : Hole := ⟨false, "name".toList⟩

theorem fits_nameHole : nameHole.Fits := by decide +kernel

def named (name : String) : Slots := [("name", .text name)]

/-- A header of one hole after some plain text. -/
def greeting : Header (· = nameHole) where
  name := "X-Greeting"
  template := "Hi \x7bname\x7d"
  pieces := "Hi ".toList.map .plain ++ [.hole nameHole]
  nameFree := by decide +kernel
  namePlain := by decide +kernel
  cut := by decide +kernel
  fits := by simpa [Piece.Fits, isBrace] using fits_nameHole
  holes := by simp

theorem usable_nameHole (name : String) : ∀ h, h = nameHole → Usable (named name) h := by
  rintro h rfl
  exact ⟨fits_nameHole, by decide +kernel, List.all_eq_true.1 (by decide +kernel), _, rfl⟩

end Sample

open Sample in
theorem ann_reads_alike :
    (∀ h, h = nameHole → Usable (named "Ann") h) ∧ Inert (· = nameHole) (named "Ann") ∧
      Prepared.headers (.text (jsonOf [greeting])) (named "Ann") =
        Prepared.headers (.object (objectOf [greeting])) (named "Ann") := by
  have hinert : Inert (· = nameHole) (named "Ann") := by
    rintro h rfl text htext
    cases htext
    exact List.all_eq_true.1 (by decide +kernel)
  exact ⟨usable_nameHole "Ann", hinert,
    (notations_agree_iff (usable_nameHole "Ann")).2 hinert [greeting] (List.nodup_singleton _)⟩

open Sample in
/-- A quote in a value ends the header; what follows it is a header of its own. -/
theorem quoted_name_adds_header :
    Json.write Json.spaced (.object (objectOf [greeting])) = .ok (jsonOf [greeting]) ∧
      Prepared.headers (.text (jsonOf [greeting])) (named "Ann\", \"X-Role\": \"admin") =
        .ok [("X-Greeting", "Hi Ann"), ("X-Role", "admin")] ∧
      Prepared.headers (.object (objectOf [greeting])) (named "Ann\", \"X-Role\": \"admin") =
        .ok [("X-Greeting", "Hi Ann\", \"X-Role\": \"admin")] := by
  refine ⟨write_objectOf ?_, by decide +kernel, by decide +kernel⟩
  rintro h hh c hc
  cases List.mem_singleton.1 hh
  have hascii : (greeting.name.toList ++ greeting.template.toList).all
      (fun c => decide (c.toNat < 127)) = true := by decide +kernel
  exact of_decide_eq_true (List.all_eq_true.1 hascii c hc)

end Dialogue.Node.Headers
