import Dialogue.Proofs.Url.Query
import Dialogue.Proofs.Url.Split
/-!
What becomes of the parts of a URL when text is put at its end, and what can be said of the parts
that any URL is cut into.
-/
namespace Dialogue.Url

open Dialogue.Text

variable {url text cs : List Char} {c mark : Char} {parts : Parts}

section Cutting

theorem cut?_append_left {sep : Char} (h : sep ∉ cs) (text : List Char) :
    cut? sep (cs ++ text) = (cut? sep text).map fun (before, after) => (cs ++ before, after) := by
  induction cs with
  | nil => simp
  | cons d cs ih =>
      simp only [List.mem_cons, not_or] at h
      rw [List.cons_append, cut?, if_neg (Ne.symm h.1), ih h.2, Option.map_map]
      rfl

theorem cutAt_isPrefix (mark : Char) (cs : List Char) : (cutAt mark cs).1 <+: cs := by
  by_cases hmark : mark ∈ cs
  · obtain ⟨before, after, rfl, hbefore⟩ := List.eq_append_cons_of_mem hmark
    rw [cutAt_append hbefore]
    exact List.prefix_append before _
  · simp [cutAt_of_not_mem hmark]

theorem mem_cutAt (h : c ∈ (cutAt mark cs).1 ∨ c ∈ (cutAt mark cs).2) : c ∈ cs := by
  by_cases hmark : mark ∈ cs
  · obtain ⟨before, after, rfl, hbefore⟩ := List.eq_append_cons_of_mem hmark
    rw [cutAt_append hbefore] at h
    rcases h with h | h
    · exact List.mem_append_left _ h
    · exact List.mem_append_right _ (List.mem_cons_of_mem _ h)
  · rw [cutAt_of_not_mem hmark] at h
    rcases h with h | h
    · exact h
    · cases h

theorem not_mem_cutAt (mark : Char) (cs : List Char) : mark ∉ (cutAt mark cs).1 := by
  by_cases hmark : mark ∈ cs
  · obtain ⟨before, after, rfl, hbefore⟩ := List.eq_append_cons_of_mem hmark
    rwa [cutAt_append hbefore]
  · rwa [cutAt_of_not_mem hmark]

theorem cutAt_append_right (h : mark ∈ cs) (text : List Char) :
    cutAt mark (cs ++ text) = ((cutAt mark cs).1, (cutAt mark cs).2 ++ text) := by
  obtain ⟨before, after, rfl, hbefore⟩ := List.eq_append_cons_of_mem h
  rw [cutAt_append hbefore, List.append_assoc, List.cons_append, cutAt_append hbefore]

theorem cutAt_append_left (h : mark ∉ cs) (htext : mark ∉ text) :
    cutAt mark (cs ++ text) = (cs ++ text, []) :=
  cutAt_of_not_mem (by simp [h, htext])

end Cutting

section Schemes

/-- Text from the first character that is none of a scheme plays no part in where a scheme ends. -/
theorem cutScheme_append (hc : isSchemeChar c = false) (hcolon : c ≠ ':') (cs text : List Char) :
    cutScheme (cs ++ c :: text) = ((cutScheme cs).1, (cutScheme cs).2 ++ c :: text) := by
  by_cases hmem : ':' ∈ cs
  · obtain ⟨scheme, rest, rfl, hscheme⟩ := List.eq_append_cons_of_mem hmem
    have hshort := cut?_append hscheme rest
    have hlong := cut?_append hscheme (rest ++ c :: text)
    simp only [cutScheme, List.append_assoc, List.cons_append, hshort, hlong]
    split <;> simp
  · have hshort : cutScheme cs = ([], cs) := by simp only [cutScheme, cut?_eq_none_iff.2 hmem]
    have hlong := cut?_append_left hmem (c :: text)
    rw [hshort, cutScheme, hlong, cut?, if_neg hcolon]
    cases cut? ':' text with
    | none => rfl
    | some halves =>
        -- what stands before the colon now has the character in it
        have hno : isScheme (cs ++ c :: halves.1) = false := by
          cases hscheme : isScheme (cs ++ c :: halves.1) with
          | false => rfl
          | true =>
              rw [isScheme_chars hscheme (by simp)] at hc
              cases hc
        simp [hno]

theorem mem_cutScheme (h : c ∈ (cutScheme cs).2) : c ∈ cs := by
  unfold cutScheme at h
  split at h
  · rename_i scheme rest hcut
    split at h
    · rw [eq_append_of_cut? hcut]
      exact List.mem_append_right _ (List.mem_cons_of_mem _ h)
    · exact h
  · exact h

theorem mem_cutScheme_of_mem (hc : isSchemeChar c = false) (hcolon : c ≠ ':') (h : c ∈ cs) :
    c ∈ (cutScheme cs).2 := by
  obtain ⟨before, after, rfl⟩ := List.append_of_mem h
  rw [cutScheme_append hc hcolon]
  simp

/-- A URL names a scheme in lower case, or none. -/
theorem cutScheme_cases (cs : List Char) :
    (cutScheme cs).1 = [] ∨
      ∃ scheme, isScheme scheme = true ∧ (cutScheme cs).1 = scheme.map Char.toLower := by
  unfold cutScheme
  split
  · rename_i scheme rest hcut
    by_cases h : isScheme scheme = true
    · exact .inr ⟨scheme, h, by rw [if_pos h]⟩
    · exact .inl (by rw [if_neg h])
  · exact .inl rfl

end Schemes

section Authorities

theorem takeWhile_append_stopped {p : Char → Bool} (h : ∃ d ∈ cs ++ [c], p d = false)
    (text : List Char) : (cs ++ c :: text).takeWhile p = cs.takeWhile p := by
  induction cs with
  | nil =>
      obtain ⟨d, hd, hstop⟩ := h
      rw [List.nil_append, List.mem_singleton] at hd
      simp [← hd, hstop]
  | cons d cs ih =>
      by_cases hd : p d = true
      · obtain ⟨e, he, hstop⟩ := h
        rcases List.mem_cons.1 he with rfl | he
        · simp [hstop] at hd
        · simp [hd, ih ⟨e, he, hstop⟩]
      · simp [hd]

theorem dropWhile_append_stopped {p : Char → Bool} (h : ∃ d ∈ cs ++ [c], p d = false)
    (text : List Char) : (cs ++ c :: text).dropWhile p = cs.dropWhile p ++ c :: text := by
  have hwhole := List.takeWhile_append_dropWhile (p := p) (l := cs ++ c :: text)
  have hcs := List.takeWhile_append_dropWhile (p := p) (l := cs)
  rw [takeWhile_append_stopped h] at hwhole
  rw [← List.append_cancel_left_eq (cs.takeWhile p), hwhole, ← List.append_assoc, hcs]

theorem cutAuthority_append (hslash : c ≠ '/')
    (hends : ∃ d ∈ cs ++ [c], d ≠ '/' ∧ endsAuthority d = true) (text : List Char) :
    cutAuthority (cs ++ c :: text) = ((cutAuthority cs).1, (cutAuthority cs).2 ++ c :: text) := by
  match cs with
  | [] => simp [cutAuthority, hslash]
  | [d] => simp [cutAuthority, hslash]
  | d :: e :: cs =>
      by_cases hopen : d = '/' ∧ e = '/'
      · obtain ⟨rfl, rfl⟩ := hopen
        have hstop : ∃ x ∈ cs ++ [c], (!endsAuthority x) = false := by
          obtain ⟨x, hx, hne, hends⟩ := hends
          simp only [List.cons_append, List.mem_cons, hne, false_or] at hx
          exact ⟨x, hx, by simp [hends]⟩
        simp only [List.cons_append, cutAuthority, takeWhile_append_stopped hstop,
          dropWhile_append_stopped hstop]
      · have hshut (rest : List Char) : cutAuthority (d :: e :: rest) = ([], d :: e :: rest) := by
          unfold cutAuthority
          split
          · rename_i heq
            simp only [List.cons.injEq] at heq
            exact absurd ⟨heq.1, heq.2.1⟩ hopen
          · rfl
        simp only [List.cons_append, hshut]

theorem mem_cutAuthority (h : c ∈ (cutAuthority cs).1 ∨ c ∈ (cutAuthority cs).2) : c ∈ cs := by
  unfold cutAuthority at h
  split at h
  · refine List.mem_cons_of_mem _ (List.mem_cons_of_mem _ ?_)
    rcases h with h | h
    · exact (List.takeWhile_prefix _).subset h
    · exact (List.dropWhile_suffix _).subset h
  · rcases h with h | h
    · cases h
    · exact h

theorem mem_cutAuthority_of_mem (hslash : c ≠ '/') (hends : endsAuthority c = true) (h : c ∈ cs) :
    c ∈ (cutAuthority cs).2 := by
  obtain ⟨before, after, rfl⟩ := List.append_of_mem h
  rw [cutAuthority_append hslash ⟨c, by simp, hslash, hends⟩]
  simp

theorem endsAuthority_cutAuthority (h : c ∈ (cutAuthority cs).1) : endsAuthority c = false := by
  unfold cutAuthority at h
  split at h
  · simpa using List.all_eq_true.1 List.all_takeWhile c h
  · cases h

theorem head_cutAuthority (h : (cutAuthority cs).1 ≠ []) :
    ∀ c ∈ (cutAuthority cs).2.head?, endsAuthority c = true := by
  unfold cutAuthority at h ⊢
  split
  · intro c hc
    have hhead := List.head?_dropWhile_not (fun c => !endsAuthority c) ‹List Char›
    rw [hc] at hhead
    simpa using hhead
  · rename_i hno
    split at h
    · rename_i rest
      exact absurd rfl (hno rest)
    · exact absurd rfl h

end Authorities

def authorityOf (url : List Char) : List Char := (cutAuthority (cutScheme (clean url)).2).1

/-- A URL without its scheme and its authority. -/
def afterOrigin (url : List Char) : List Char := (cutAuthority (cutScheme (clean url)).2).2

theorem split_eq (url : List Char) :
    split url =
      if !bracketsFit (authorityOf url) || hasHiddenDelimiter (authorityOf url) then
        .error (.malformed .address)
      else
        .ok ⟨(cutScheme (clean url)).1, authorityOf url, (cutAt '?' (cutAt '#' (afterOrigin url)).1).1,
          (cutAt '?' (cutAt '#' (afterOrigin url)).1).2, (cutAt '#' (afterOrigin url)).2⟩ :=
  rfl

section Appending

/-- A mark with which parameters may be put behind a URL. -/
def Joins (url : List Char) (mark : Char) : Prop := mark = '?' ∨ mark = '&' ∧ '?' ∈ url

theorem Joins.cases (h : Joins url mark) : mark = '?' ∨ mark = '&' := h.imp_right And.left

theorem joins_contains (url : List Char) : Joins url (if url.contains '?' then '&' else '?') := by
  by_cases h : '?' ∈ url <;> simp [Joins, h]

theorem clean_append (hc : 32 < c.toNat) (url text : List Char) :
    clean (url ++ c :: text) = clean url ++ c :: kept text := by
  have hstop : ∃ d ∈ url ++ [c], decide (d.toNat ≤ 32) = false :=
    ⟨c, by simp, by simpa using hc⟩
  rw [clean, dropWhile_append_stopped hstop]
  refine (kept_append _ _).trans (congrArg (clean url ++ ·) ?_)
  simp [kept, isKept_of_lt hc]

theorem mem_clean (h : c ∈ clean url) : c ∈ url ∧ isKept c = true := by
  obtain ⟨hmem, hkept⟩ := List.mem_filter.1 h
  exact ⟨(List.dropWhile_suffix _).subset hmem, hkept⟩

theorem mem_clean_of_mem (hc : 32 < c.toNat) (h : c ∈ url) : c ∈ clean url := by
  obtain ⟨before, after, rfl⟩ := List.append_of_mem h
  rw [clean_append hc]
  simp

theorem mem_afterOrigin (h : c ∈ afterOrigin url) : c ∈ url ∧ isKept c = true :=
  mem_clean (mem_cutScheme (mem_cutAuthority (.inr h)))

/-- The marks of a query and of a fragment stand behind the origin. -/
theorem mark_mem_afterOrigin (hmark : mark = '?' ∨ mark = '#') :
    mark ∈ afterOrigin url ↔ mark ∈ url := by
  refine ⟨fun h => (mem_afterOrigin h).1, fun h => ?_⟩
  have hclean : mark ∈ clean url :=
    mem_clean_of_mem (by rcases hmark with rfl | rfl <;> decide) h
  have hscheme : mark ∈ (cutScheme (clean url)).2 := by
    rcases hmark with rfl | rfl <;> exact mem_cutScheme_of_mem (by decide) (by decide) hclean
  rcases hmark with rfl | rfl <;> exact mem_cutAuthority_of_mem (by decide) (by decide) hscheme

/-- Text behind a mark leaves scheme and authority as they are. -/
theorem origin_append (h : Joins url mark) (text : List Char) :
    (cutScheme (clean (url ++ mark :: text))).1 = (cutScheme (clean url)).1 ∧
      authorityOf (url ++ mark :: text) = authorityOf url ∧
        afterOrigin (url ++ mark :: text) = afterOrigin url ++ mark :: kept text := by
  have hclean : clean (url ++ mark :: text) = clean url ++ mark :: kept text :=
    clean_append (by rcases h.cases with rfl | rfl <;> decide) url text
  have hscheme : cutScheme (clean url ++ mark :: kept text) =
      ((cutScheme (clean url)).1, (cutScheme (clean url)).2 ++ mark :: kept text) := by
    rcases h.cases with rfl | rfl <;> exact cutScheme_append (by decide) (by decide) _ _
  have hends : ∃ d ∈ (cutScheme (clean url)).2 ++ [mark], d ≠ '/' ∧ endsAuthority d = true := by
    refine ⟨'?', ?_, by decide, by decide⟩
    rcases h with rfl | ⟨-, hmem⟩
    · simp
    · have hkept : '?' ∈ (cutScheme (clean url)).2 :=
        mem_cutScheme_of_mem (by decide) (by decide) (mem_clean_of_mem (by decide) hmem)
      exact List.mem_append_left _ hkept
  have hslash : mark ≠ '/' := by rcases h.cases with rfl | rfl <;> decide
  have hauthority := cutAuthority_append hslash hends (kept text)
  simp only [authorityOf, afterOrigin, hclean, hscheme, hauthority, and_self]

theorem isAbsolute_append (h : Joins url mark) (text : List Char) :
    (split (url ++ mark :: text)).map Parts.isAbsolute = (split url).map Parts.isAbsolute := by
  obtain ⟨hscheme, hauthority, -⟩ := origin_append h text
  rw [split_eq, split_eq, hscheme, hauthority]
  split <;> rfl

theorem exists_split_append (h : Joins url mark) (hsplit : split url = .ok parts)
    (text : List Char) :
    ∃ appended, split (url ++ mark :: text) = .ok appended ∧
      appended.isAbsolute = parts.isAbsolute := by
  have hsame := isAbsolute_append h text
  rw [hsplit] at hsame
  cases happended : split (url ++ mark :: text) with
  | error fault =>
      rw [happended] at hsame
      cases hsame
  | ok appended =>
      rw [happended] at hsame
      exact ⟨appended, rfl, Except.ok.inj hsame⟩

/-- Where text at the end of a URL comes to stand: in its fragment if it has one, else in its
query. -/
def Parts.append (url : List Char) (mark : Char) (text : List Char) (parts : Parts) : Parts :=
  if '#' ∈ url then { parts with fragment := parts.fragment ++ mark :: text }
  else if '?' ∈ url then { parts with query := parts.query ++ mark :: text }
  else { parts with query := text }

theorem Parts.path_append (url : List Char) (mark : Char) (text : List Char) (parts : Parts) :
    (parts.append url mark text).path = parts.path := by
  unfold Parts.append
  split
  · rfl
  · split <;> rfl

theorem query_of_not_mem (h : split url = .ok parts) (hmark : '?' ∉ url) : parts.query = [] := by
  have hafter : '?' ∉ (cutAt '#' (afterOrigin url)).1 := fun hmem =>
    hmark (mem_afterOrigin (mem_cutAt (.inl hmem))).1
  rw [split_eq] at h
  split at h
  · cases h
  · cases h
    rw [cutAt_of_not_mem hafter]

theorem split_append (h : Joins url mark) (htext : ∀ c ∈ text, c ≠ '#' ∧ isKept c = true) :
    split (url ++ mark :: text) = (split url).map (Parts.append url mark text) := by
  obtain ⟨hscheme, hauthority, hafter⟩ := origin_append h text
  rw [kept_of_forall fun c hc => (htext c hc).2] at hafter
  have hhash : '#' ∈ afterOrigin url ↔ '#' ∈ url := mark_mem_afterOrigin (.inr rfl)
  have hmark : '?' ∈ afterOrigin url ↔ '?' ∈ url := mark_mem_afterOrigin (.inl rfl)
  have hnew : '#' ∉ mark :: text := by
    rw [List.mem_cons, not_or]
    refine ⟨?_, fun hmem => (htext '#' hmem).1 rfl⟩
    rcases h.cases with rfl | rfl <;> decide
  rw [split_eq, split_eq, hscheme, hauthority, hafter]
  split
  · rfl
  rw [Except.map, Parts.append]
  by_cases hfragment : '#' ∈ url
  · rw [if_pos hfragment, cutAt_append_right (hhash.2 hfragment)]
  rw [if_neg hfragment]
  have hno : '#' ∉ afterOrigin url := fun hmem => hfragment (hhash.1 hmem)
  rw [cutAt_append_left hno hnew, cutAt_of_not_mem hno]
  by_cases hquery : '?' ∈ url
  · rw [if_pos hquery, cutAt_append_right (hmark.2 hquery)]
  · rw [if_neg hquery]
    obtain rfl : mark = '?' := h.resolve_right fun hand => hquery hand.2
    have hno' : '?' ∉ afterOrigin url := fun hmem => hquery (hmark.1 hmem)
    rw [cutAt_append hno', cutAt_of_not_mem hno']

end Appending

section Queries

theorem isKept_of_isUnreserved (h : isUnreserved c = true) : c ≠ '#' ∧ isKept c = true := by
  have hne (d : Char) (hd : isUnreserved d = false) : c ≠ d := by
    rintro rfl
    rw [h] at hd
    cases hd
  refine ⟨hne '#' (by decide), ?_⟩
  simp [isKept, hne '\t' (by decide), hne '\n' (by decide), hne '\r' (by decide)]

/-- An encoded query ends neither at a fragment nor at a line. -/
theorem encodeQuery_chars (params : List Param) :
    ∀ c ∈ encodeQuery params, c ≠ '#' ∧ isKept c = true := by
  have hparam := forall_mem_encodeParam (P := fun c => c ≠ '#' ∧ isKept c = true) (by decide)
    (by decide) (by decide) fun _ => isKept_of_isUnreserved
  induction params with
  | nil => exact fun c hc => absurd hc List.not_mem_nil
  | cons param params ih =>
      cases params with
      | nil => exact hparam param
      | cons next params =>
          intro c hc
          rcases List.mem_append.1 hc with hc | hc
          · exact hparam param c hc
          · rcases List.mem_cons.1 hc with rfl | hc
            · decide
            · exact ih c hc

theorem encodeQuery_ne_nil {params : List Param} (h : params ≠ []) : encodeQuery params ≠ [] := by
  intro hnil
  have hdecoded := decodeQuery_encodeQuery params
  rw [hnil] at hdecoded
  exact h hdecoded.symm

end Queries

section Rejoining

theorem isOrigin_of_split (h : split url = .ok parts) (habsolute : parts.isAbsolute = true) :
    IsOrigin parts.scheme parts.authority := by
  rw [split_eq] at h
  split at h
  · cases h
  rename_i hfits
  cases h
  simp only [Bool.or_eq_true, Bool.not_eq_true', not_or, Bool.not_eq_false,
    Bool.not_eq_true] at hfits
  simp only [Parts.isAbsolute, Bool.and_eq_true, Bool.not_eq_true', List.isEmpty_eq_false_iff] at habsolute
  refine ⟨?_, habsolute.2, fun c hc => endsAuthority_cutAuthority hc, hfits.1, hfits.2, fun c hc => ?_⟩
  · rcases cutScheme_cases (clean url) with hnone | ⟨scheme, hscheme, heq⟩
    · exact absurd hnone habsolute.1
    · simp only [heq]
      exact isScheme_toLower hscheme
  · exact (mem_clean (mem_cutScheme (mem_cutAuthority (.inl hc)))).2

theorem toLower_toLower (c : Char) : c.toLower.toLower = c.toLower := by
  by_cases hupper : c.isUpper = true
  · have hbound : c.val ≤ 'Z'.val := (of_decide_eq_true hupper).2
    exact of_toNat_lt (fun c => c.toLower.toLower = c.toLower) (b := 91) (by decide)
      (Nat.lt_succ_of_le (UInt32.le_iff_toNat_le.1 hbound))
  · rw [toLower_of_not_isUpper (Bool.eq_false_iff.2 hupper),
      toLower_of_not_isUpper (Bool.eq_false_iff.2 hupper)]

theorem cutScheme_lower (cs : List Char) : (cutScheme cs).1.map Char.toLower = (cutScheme cs).1 := by
  rcases cutScheme_cases cs with hnone | ⟨scheme, -, heq⟩
  · rw [hnone]
    rfl
  · rw [heq, List.map_map]
    exact List.map_congr_left fun c _ => toLower_toLower c

/-- What follows an authority is a path from the root, or starts with the mark of another part. -/
theorem isRooted_path (h : authorityOf url ≠ []) :
    IsRooted (cutAt '?' (cutAt '#' (afterOrigin url)).1).1 := by
  have hprefix := (cutAt_isPrefix '?' (cutAt '#' (afterOrigin url)).1).trans (cutAt_isPrefix '#' _)
  have hmark := not_mem_cutAt '?' (cutAt '#' (afterOrigin url)).1
  have hhash : '#' ∉ (cutAt '?' (cutAt '#' (afterOrigin url)).1).1 := fun hmem =>
    not_mem_cutAt '#' (afterOrigin url) (mem_cutAt (.inl hmem))
  have hhead : ∀ c ∈ (afterOrigin url).head?, endsAuthority c = true := head_cutAuthority h
  generalize (cutAt '?' (cutAt '#' (afterOrigin url)).1).1 = path at *
  cases path with
  | nil => exact .inl rfl
  | cons c path =>
      obtain ⟨rest, hrest⟩ := hprefix
      have hends := hhead c (by rw [← hrest]; rfl)
      simp only [endsAuthority, Bool.or_eq_true, decide_eq_true_eq] at hends
      rcases hends with (rfl | rfl) | rfl
      · exact .inr rfl
      · exact absurd List.mem_cons_self hmark
      · exact absurd List.mem_cons_self hhash

/-- The parts of a URL with an authority, and another query, are read back from their text. -/
theorem split_rejoined (h : split url = .ok parts) (habsolute : parts.isAbsolute = true)
    {query : List Char} (hquery : ∀ c ∈ query, c ≠ '#' ∧ isKept c = true) :
    IsRooted parts.path ∧
      split (front parts.scheme parts.authority ++ tail parts.path (some query)
          (if parts.fragment = [] then none else some parts.fragment)) =
        .ok { parts with query := query } := by
  have horigin := isOrigin_of_split h habsolute
  rw [split_eq] at h
  split at h
  · cases h
  cases h
  have hrooted := isRooted_path horigin.stated
  have hmark := not_mem_cutAt '?' (cutAt '#' (afterOrigin url)).1
  have hhash : '#' ∉ (cutAt '?' (cutAt '#' (afterOrigin url)).1).1 := fun hmem =>
    not_mem_cutAt '#' (afterOrigin url) (mem_cutAt (.inl hmem))
  have hpath : kept (cutAt '?' (cutAt '#' (afterOrigin url)).1).1 =
      (cutAt '?' (cutAt '#' (afterOrigin url)).1).1 :=
    kept_of_forall fun c hc => (mem_afterOrigin (mem_cutAt (.inl (mem_cutAt (.inl hc))))).2
  have hfragment : kept ((if (cutAt '#' (afterOrigin url)).2 = [] then none
      else some (cutAt '#' (afterOrigin url)).2).getD []) = (cutAt '#' (afterOrigin url)).2 := by
    by_cases hnone : (cutAt '#' (afterOrigin url)).2 = []
    · rw [if_pos hnone, hnone]
      rfl
    · rw [if_neg hnone]
      exact kept_of_forall fun c hc => (mem_afterOrigin (mem_cutAt (.inr hc))).2
  have hnew : ∀ q ∈ some query, '#' ∉ q := by
    rintro q ⟨⟩ hmem
    exact (hquery '#' hmem).1 rfl
  refine ⟨hrooted, (split_front horigin hrooted hmark hhash hnew _).trans ?_⟩
  rw [cutScheme_lower, hpath, hfragment, Option.getD_some, kept_of_forall fun c hc => (hquery c hc).2]

end Rejoining

end Dialogue.Url
