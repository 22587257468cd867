import Dialogue.Proofs.Text
import Dialogue.Url.Percent
/-!
Percent encoding is read back as it was written, whatever follows it; so are the queries that are
written in it.
-/
namespace Dialogue.Url

open Dialogue.Text

variable {c : Char} {b n : Nat} {safe : Char → Bool} {cs rest : List Char}

theorem hexValue?_upperHex (h : n < 16) : hexValue? (upperHex n) = some n := by
  have hall : ∀ n < 16, hexValue? (upperHex n) = some n := by decide
  exact hall n h

theorem upperHex_isUnreserved (h : n < 16) : isUnreserved (upperHex n) = true := by
  have hall : ∀ n < 16, isUnreserved (upperHex n) = true := by decide
  exact hall n h

theorem octetsFrom_encodeOctet (h : b < 0x100) (rest : List Char) :
    octetsFrom 0 (encodeOctet b ++ rest) = b :: octetsFrom 0 rest := by
  have hhigh := hexValue?_upperHex (n := b / 16) (by omega)
  have hlow := hexValue?_upperHex (n := b % 16) (by omega)
  have hb : 16 * (b / 16) + b % 16 = b := by omega
  simp [encodeOctet, octetsFrom, escapeAt?, hhigh, hlow, hb]

theorem escapeAt?_plain (h : c ≠ '%') (rest : List Char) : escapeAt? (c :: rest) = none := by
  unfold escapeAt?
  split
  · rename_i heq
    exact absurd (List.cons.inj heq).1 h
  · rfl

theorem octetsFrom_plain (h : c ≠ '%') (rest : List Char) :
    octetsFrom 0 (c :: rest) = octets c ++ octetsFrom 0 rest := by
  rw [octetsFrom, escapeAt?_plain h]

theorem octetsFrom_encodeOctets {bs : List Nat} (h : ∀ b ∈ bs, b < 0x100) (rest : List Char) :
    octetsFrom 0 (bs.flatMap encodeOctet ++ rest) = bs ++ octetsFrom 0 rest := by
  induction bs with
  | nil => rfl
  | cons b bs ih =>
      rw [List.flatMap_cons, List.append_assoc, octetsFrom_encodeOctet (h b (by simp)),
        ih fun b hb => h b (by simp [hb])]
      rfl

theorem octets_lt (h : b ∈ octets c) : b < 0x100 := by
  rcases octets_cases h with h | h <;> omega

theorem octetsFrom_encode (hsafe : safe '%' = false) (cs rest : List Char) :
    octetsFrom 0 (encode safe cs ++ rest) = cs.flatMap octets ++ octetsFrom 0 rest := by
  induction cs with
  | nil => rfl
  | cons c cs ih =>
      rw [encode, List.flatMap_cons, List.flatMap_cons, List.append_assoc, List.append_assoc, ← ih,
        encodeChar]
      split
      · rename_i hc
        have hne : c ≠ '%' := by
          rintro rfl
          simp [hsafe, show isUnreserved '%' = false by decide] at hc
        exact octetsFrom_plain hne _
      · exact octetsFrom_encodeOctets (fun _ => octets_lt) _

/-- A text without `%` stands for itself. -/
theorem octetsFrom_of_plain (h : '%' ∉ cs) (rest : List Char) :
    octetsFrom 0 (cs ++ rest) = cs.flatMap octets ++ octetsFrom 0 rest := by
  induction cs with
  | nil => rfl
  | cons c cs ih =>
      simp only [List.mem_cons, not_or] at h
      rw [List.cons_append, octetsFrom_plain (Ne.symm h.1), ih h.2, List.flatMap_cons,
        List.append_assoc]

theorem decode_encode_append (hsafe : safe '%' = false) (cs rest : List Char) :
    decode (encode safe cs ++ rest) = cs ++ decode rest := by
  rw [decode, octetsFrom_encode hsafe, decodeOctets_append]
  rfl

theorem decode_encode (hsafe : safe '%' = false) (cs : List Char) : decode (encode safe cs) = cs := by
  have h := decode_encode_append hsafe cs []
  rwa [List.append_nil, show decode [] = [] from rfl, List.append_nil] at h

theorem decode_of_plain (h : '%' ∉ cs) : decode cs = cs := by
  have hoctets := octetsFrom_of_plain h []
  rw [List.append_nil, octetsFrom, List.append_nil] at hoctets
  rw [decode, hoctets, decodeOctets_octets]

section Seams

theorem toNat_of_hexValue? (h : hexValue? c = some n) : c.toNat < 103 := by
  unfold hexValue? at h
  simp only [Bool.and_eq_true, decide_eq_true_eq, Char.le_def, UInt32.le_iff_toNat_le] at h
  split at h
  · rename_i hc
    exact Nat.lt_of_le_of_lt hc.2 (by decide)
  · split at h
    · rename_i hc
      exact Nat.lt_of_le_of_lt hc.2 (by decide)
    · split at h
      · rename_i hc
        exact Nat.lt_of_le_of_lt hc.2 (by decide)
      · cases h

theorem isUnreserved_of_hexValue? (h : hexValue? c = some n) : isUnreserved c = true := by
  have hc := of_toNat_lt (fun c => hexValue? c ≠ none → isUnreserved c = true) (by decide)
    (toNat_of_hexValue? h)
  exact hc (by simp [h])

/-- No escape reaches over a character that is no hexadecimal digit. -/
theorem escapeAt?_append (hc : hexValue? c = none) (d : Char) (front rest : List Char) :
    escapeAt? (d :: (front ++ c :: rest)) = escapeAt? (d :: front) := by
  by_cases hd : d = '%'
  · subst hd
    match front with
    | [] => cases rest <;> simp [escapeAt?, hc]
    | [a] => simp [escapeAt?, hc]
    | a :: b :: front => rfl
  · rw [escapeAt?_plain hd, escapeAt?_plain hd]

theorem length_of_escapeAt? {d : Char} (h : escapeAt? (d :: cs) = some b) : 2 ≤ cs.length := by
  match cs with
  | [] => simp [escapeAt?] at h
  | [a] => simp [escapeAt?] at h
  | a :: b :: cs => simp

theorem octetsFrom_append (hc : hexValue? c = none) (rest : List Char) {front : List Char}
    {skip : Nat} (hskip : skip ≤ front.length) :
    octetsFrom skip (front ++ c :: rest) = octetsFrom skip front ++ octetsFrom 0 (c :: rest) := by
  induction front generalizing skip with
  | nil =>
      obtain rfl : skip = 0 := Nat.le_zero.1 hskip
      rfl
  | cons d front ih =>
      cases skip with
      | succ skip => exact ih (by simpa using hskip)
      | zero =>
          rw [List.cons_append, octetsFrom, octetsFrom, escapeAt?_append hc]
          cases hescape : escapeAt? (d :: front) with
          | none => simp only [ih (Nat.zero_le _), List.append_assoc]
          | some b => simp only [ih (length_of_escapeAt? hescape), List.cons_append]

end Seams

section Characters

theorem mem_encodeOctet (h : b < 0x100) {x : Char} (hx : x ∈ encodeOctet b) :
    x = '%' ∨ isUnreserved x = true := by
  simp only [encodeOctet, List.mem_cons, List.not_mem_nil, or_false] at hx
  rcases hx with rfl | rfl | rfl
  · exact .inl rfl
  · exact .inr (upperHex_isUnreserved (by omega))
  · exact .inr (upperHex_isUnreserved (by omega))

/-- Encoded texts hold unreserved and safe characters and percent signs. -/
theorem mem_encode {x : Char} (hx : x ∈ encode safe cs) :
    x = '%' ∨ isUnreserved x = true ∨ safe x = true ∧ x ∈ cs := by
  obtain ⟨c, hc, hx⟩ := List.mem_flatMap.1 hx
  unfold encodeChar at hx
  split at hx
  · rename_i hkept
    obtain rfl := List.mem_singleton.1 hx
    rcases Bool.or_eq_true_iff.1 hkept with h | h
    · exact .inr (.inl h)
    · exact .inr (.inr ⟨h, hc⟩)
  · obtain ⟨b, hb, hx⟩ := List.mem_flatMap.1 hx
    rcases mem_encodeOctet (octets_lt hb) hx with h | h
    · exact .inl h
    · exact .inr (.inl h)

theorem encode_of_unreserved (h : ∀ c ∈ cs, isUnreserved c = true) : encode safe cs = cs := by
  induction cs with
  | nil => rfl
  | cons c cs ih =>
      have hc : encodeChar safe c = [c] := by simp [encodeChar, h c (by simp)]
      rw [encode, List.flatMap_cons, hc]
      exact congrArg (c :: ·) (ih fun d hd => h d (by simp [hd]))

end Characters

end Dialogue.Url

/-!
Queries are read back as they were written, field by field: a query is its fields joined by `&`.
-/

namespace Dialogue.Url

open Dialogue.Text

variable {cs name value field : List Char}

def plusToSpace (c : Char) : Char := if c = '+' then ' ' else c

theorem decodeField_eq (cs : List Char) : decodeField cs = decode (cs.map plusToSpace) := rfl

theorem map_eq_self {f : Char → Char} (h : ∀ c ∈ cs, f c = c) : cs.map f = cs :=
  (List.map_congr_left h).trans (List.map_id cs)

/-- A plus sign is encoded, so those that encoding writes stand for spaces. -/
theorem plusToSpace_encodeField (cs : List Char) :
    (encodeField cs).map plusToSpace = encode (· = ' ') cs := by
  rw [encodeField, List.map_map]
  refine map_eq_self fun c hc => ?_
  by_cases hspace : c = ' '
  · simp [hspace, plusToSpace]
  · have hplus : c ≠ '+' := by
      rintro rfl
      rcases mem_encode hc with h | h | ⟨h, -⟩
      · exact absurd h (by decide)
      · exact absurd h (by decide)
      · exact absurd h (by decide)
    simp [hspace, plusToSpace, hplus]

theorem decodeField_encodeField_append (cs rest : List Char) :
    decodeField (encodeField cs ++ rest) = cs ++ decodeField rest := by
  rw [decodeField_eq, List.map_append, plusToSpace_encodeField, decode_encode_append (by decide)]
  rfl

theorem decodeField_encodeField (cs : List Char) : decodeField (encodeField cs) = cs := by
  have h := decodeField_encodeField_append cs []
  rwa [List.append_nil, show decodeField [] = [] from rfl, List.append_nil] at h

/-- A text without `%` and `+` is a field that stands for itself. -/
theorem decodeField_of_plain (hpercent : '%' ∉ cs) (hplus : '+' ∉ cs) : decodeField cs = cs := by
  have hmap : cs.map plusToSpace = cs := map_eq_self fun c hc => by
    have hne : c ≠ '+' := fun h => hplus (h ▸ hc)
    simp [plusToSpace, hne]
  rw [decodeField_eq, hmap, decode_of_plain hpercent]

theorem mem_encodeField {x : Char} (hx : x ∈ encodeField cs) :
    x = '%' ∨ x = '+' ∨ isUnreserved x = true := by
  obtain ⟨c, hc, rfl⟩ := List.mem_map.1 hx
  by_cases hspace : c = ' '
  · simp [hspace]
  · rw [if_neg hspace]
    rcases mem_encode hc with h | h | ⟨h, -⟩
    · exact .inl h
    · exact .inr (.inr h)
    · exact absurd (of_decide_eq_true h) hspace

theorem forall_mem_encodeField {P : Char → Prop} (hpercent : P '%') (hplus : P '+')
    (h : ∀ c, isUnreserved c = true → P c) (cs : List Char) : ∀ c ∈ encodeField cs, P c := by
  intro c hc
  rcases mem_encodeField hc with rfl | rfl | hc
  · exact hpercent
  · exact hplus
  · exact h c hc

theorem not_mem_encodeField {x : Char} (h : isUnreserved x = false) (hpercent : x ≠ '%')
    (hplus : x ≠ '+') (cs : List Char) : x ∉ encodeField cs := by
  have hne : ∀ c ∈ encodeField cs, c ≠ x := by
    refine forall_mem_encodeField hpercent.symm hplus.symm (fun c hc => ?_) cs
    rintro rfl
    rw [h] at hc
    cases hc
  exact fun hx => hne x hx rfl

theorem encodeField_of_unreserved (h : ∀ c ∈ cs, isUnreserved c = true) : encodeField cs = cs := by
  rw [encodeField, encode_of_unreserved h]
  refine map_eq_self fun c hc => ?_
  have hne : c ≠ ' ' := by
    rintro rfl
    exact absurd (h ' ' hc) (by decide)
  simp [hne]

theorem encodeField_append (a b : List Char) :
    encodeField (a ++ b) = encodeField a ++ encodeField b := by
  simp [encodeField, encode]

/-- A field keeps unreserved characters, writes a space as a plus sign and encodes the rest. -/
theorem encodeField_singleton (c : Char) :
    encodeField [c] = if isUnreserved c then [c] else if c = ' ' then ['+']
      else (octets c).flatMap encodeOctet := by
  by_cases hspace : c = ' '
  · rw [hspace]
    rfl
  · have hmap : encodeField [c] = encode (· = ' ') [c] := by
      rw [encodeField]
      refine map_eq_self fun d hd => ?_
      have hne : d ≠ ' ' := by
        rintro rfl
        rcases mem_encode hd with h | h | ⟨-, h⟩
        · exact absurd h (by decide)
        · exact absurd h (by decide)
        · exact hspace (List.mem_singleton.1 h).symm
      simp [hne]
    rw [hmap, encode, List.flatMap_singleton, encodeChar]
    simp [hspace]

section Ends

variable {a b : List Char} {c : Char}

/-- Two ends of a field that stand for the same, whatever they come after. -/
def SameEnd (a b : List Char) : Prop :=
  ∀ front, octetsFrom 0 (front ++ a.map plusToSpace) = octetsFrom 0 (front ++ b.map plusToSpace)

theorem SameEnd.decodeField_eq (h : SameEnd a b) : decodeField a = decodeField b :=
  congrArg decodeOctets (h [])

theorem SameEnd.append (h : SameEnd a b) (cs : List Char) : SameEnd (cs ++ a) (cs ++ b) := by
  intro front
  have hfront := h (front ++ cs.map plusToSpace)
  rw [List.append_assoc, List.append_assoc] at hfront
  rwa [List.map_append, List.map_append]

/-- A character may be encoded anywhere: no escape before it reaches over it, encoded or not. -/
theorem SameEnd.encodeField_cons (h : SameEnd a b) (hpercent : c ≠ '%') (hplus : c ≠ '+') :
    SameEnd (encodeField [c] ++ a) (c :: b) := by
  by_cases hkept : isUnreserved c = true
  · rw [encodeField_singleton, if_pos hkept]
    exact h.append [c]
  by_cases hspace : c = ' '
  · subst hspace
    exact h.append [' ']
  intro front
  have hdigit : hexValue? c = none := by
    cases hvalue : hexValue? c with
    | none => rfl
    | some n => exact absurd (isUnreserved_of_hexValue? hvalue) hkept
  obtain ⟨cs, hcs⟩ : ∃ cs, encode (· = ' ') [c] = '%' :: cs := by
    cases hoctets : octets c with
    | nil => exact absurd hoctets (octets_ne_nil c)
    | cons o os => simp [encode, encodeChar, hkept, hspace, hoctets, encodeOctet]
  have hencoded : octetsFrom 0 (encode (· = ' ') [c] ++ a.map plusToSpace) =
      [c].flatMap octets ++ octetsFrom 0 (a.map plusToSpace) := octetsFrom_encode (by decide) _ _
  have hplain := octetsFrom_plain hpercent (b.map plusToSpace)
  have hsame : octetsFrom 0 (a.map plusToSpace) = octetsFrom 0 (b.map plusToSpace) := h []
  rw [List.map_append, plusToSpace_encodeField, List.map_cons, plusToSpace, if_neg hplus,
    octetsFrom_append hdigit _ (Nat.zero_le _), hplain]
  rw [hcs] at hencoded ⊢
  rw [List.cons_append] at hencoded ⊢
  rw [octetsFrom_append (by decide) _ (Nat.zero_le _), hencoded, List.flatMap_singleton, hsame]

end Ends

theorem decodeParam_append (h : '=' ∉ name) (value : List Char) :
    decodeParam (name ++ '=' :: value) = (decodeField name, decodeField value) := by
  rw [decodeParam, cut?_append h]

theorem decodeParam_encodeParam (param : Param) : decodeParam (encodeParam param) = param := by
  rw [encodeParam, decodeParam_append (not_mem_encodeField (by decide) (by decide) (by decide) _),
    decodeField_encodeField, decodeField_encodeField]

theorem decodeQuery_append (a b : List Char) :
    decodeQuery (a ++ '&' :: b) = decodeQuery a ++ decodeQuery b := by
  simp [decodeQuery, splitAll_append]

theorem decodeQuery_intercalate (fields : List (List Char)) :
    decodeQuery (['&'].intercalate fields) = fields.flatMap decodeQuery := by
  induction fields with
  | nil => rfl
  | cons field fields ih =>
      cases fields with
      | nil => simp
      | cons next fields =>
          rw [List.intercalate_cons_cons, List.append_assoc, List.singleton_append,
            decodeQuery_append, ih]
          rfl

theorem decodeQuery_field (h : '&' ∉ field) :
    decodeQuery field = if field = [] then [] else [decodeParam field] := by
  rw [decodeQuery, splitAll_of_not_mem h]
  by_cases hfield : field = [] <;> simp [hfield]

theorem encodeQuery_eq (params : List Param) :
    encodeQuery params = ['&'].intercalate (params.map encodeParam) := by
  induction params with
  | nil => rfl
  | cons param params ih =>
      cases params with
      | nil => simp [encodeQuery]
      | cons next params =>
          simp only [encodeQuery, ih, List.map_cons, List.intercalate_cons_cons]
          simp

theorem not_mem_encodeParam {x : Char} (h : isUnreserved x = false) (hpercent : x ≠ '%')
    (hplus : x ≠ '+') (hequals : x ≠ '=') (param : Param) : x ∉ encodeParam param := by
  simp [encodeParam, not_mem_encodeField h hpercent hplus, hequals]

theorem forall_mem_encodeParam {P : Char → Prop} (hpercent : P '%') (hplus : P '+')
    (hequals : P '=') (h : ∀ c, isUnreserved c = true → P c) (param : Param) :
    ∀ c ∈ encodeParam param, P c := by
  intro c hc
  rcases List.mem_append.1 hc with hc | hc
  · exact forall_mem_encodeField hpercent hplus h _ c hc
  · rcases List.mem_cons.1 hc with rfl | hc
    · exact hequals
    · exact forall_mem_encodeField hpercent hplus h _ c hc

theorem decodeQuery_encodeParam (param : Param) : decodeQuery (encodeParam param) = [param] := by
  have hand : '&' ∉ encodeParam param :=
    not_mem_encodeParam (by decide) (by decide) (by decide) (by decide) param
  have hne : encodeParam param ≠ [] := by simp [encodeParam]
  rw [decodeQuery_field hand, if_neg hne, decodeParam_encodeParam]

theorem decodeQuery_encodeQuery (params : List Param) : decodeQuery (encodeQuery params) = params := by
  rw [encodeQuery_eq, decodeQuery_intercalate, List.flatMap_map]
  simp [decodeQuery_encodeParam]

end Dialogue.Url
