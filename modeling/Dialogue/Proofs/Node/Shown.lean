import Dialogue.Proofs.Session.Record
import Dialogue.Proofs.Value.Address
import Dialogue.Scenario.Render
/-!
What a node that is shown has in common with the node as it is authored. Values are compared part by
part, along the ways to their parts.
-/
namespace Dialogue

namespace Value

/-- A value without the parts in it. -/
inductive Outline where
  | scalar (v : Value)
  | list (length : Nat)
  | object (keys : List String)

def outline : Value → Outline
  | .list items => .list items.length
  | .object fields => .object (Mapping.keys fields)
  | v => .scalar v

def child? : Value → Access → Option Value
  | .list items, .index place => items[place]?
  | .object fields, .key name => Mapping.get? fields name
  | _, _ => none

theorem at?_cons (v : Value) (access : Access) (way : List Access) :
    v.at? (access :: way) = (v.child? access).bind fun part => part.at? way := by
  cases v <;> cases access <;> rfl

end Value

/-- Says of a way, of whether values are encoded at its end and of the value there that this value
is a template. -/
abbrev Places := List Access → Bool → Value → Prop

namespace Places

/-- The value itself. -/
def here (encodeQuery : Bool) : Places := fun way code _ => way = [] ∧ code = encodeQuery

/-- The value itself, if it is a text. -/
def text : Places := fun way code v => way = [] ∧ code = false ∧ ∃ s, v = .text s

/-- Places in one field of an object. -/
inductive Field (name : String) (places : Places) : Places
  | intro {way : List Access} {code : Bool} {v : Value} :
      places way code v → Field name places (.key name :: way) code v

/-- Places in every item of a list. -/
inductive Items (places : Places) : Places
  | intro {way : List Access} {code : Bool} {v : Value} (place : Nat) :
      places way code v → Items places (.index place :: way) code v

def or (places others : Places) : Places := fun way code v => places way code v ∨ others way code v

/-- The places as they are seen from a part. -/
def below (places : Places) (access : Access) : Places := fun way => places (access :: way)

def Inhabited (places : Places) : Prop := ∃ way code v, places way code v

section Inner

variable {places : Places} {name : String} {way : List Access} {code : Bool} {v : Value}

theorem field_key_iff : Field name places (.key name :: way) code v ↔ places way code v := by
  constructor
  · rintro ⟨hplace⟩
    exact hplace
  · exact .intro

theorem items_index_iff {place : Nat} :
    Items places (.index place :: way) code v ↔ places way code v := by
  constructor
  · rintro ⟨-, hplace⟩
    exact hplace
  · exact .intro place

theorem not_field_nil : ¬ Field name places [] code v := by
  rintro ⟨⟩

theorem not_items_nil : ¬ Items places [] code v := by
  rintro ⟨⟩

end Inner

theorem Inhabited.field {places : Places} (h : places.Inhabited) (name : String) :
    (places.Field name).Inhabited := by
  obtain ⟨way, code, v, hplace⟩ := h
  exact ⟨.key name :: way, code, v, .intro hplace⟩

theorem Inhabited.items {places : Places} (h : places.Inhabited) : places.Items.Inhabited := by
  obtain ⟨way, code, v, hplace⟩ := h
  exact ⟨.index 0 :: way, code, v, .intro 0 hplace⟩

theorem Inhabited.or_left {places : Places} (h : places.Inhabited) (others : Places) :
    (places.or others).Inhabited := by
  obtain ⟨way, code, v, hplace⟩ := h
  exact ⟨way, code, v, .inl hplace⟩

theorem inhabited_here (encodeQuery : Bool) : (here encodeQuery).Inhabited :=
  ⟨[], encodeQuery, .null, rfl, rfl⟩

theorem inhabited_text : text.Inhabited := ⟨[], false, .text "", rfl, rfl, "", rfl⟩

/-- No place of the one kind is in a place of the other. -/
def Apart (places others : Places) : Prop :=
  ∀ ⦃way code v other code' w⦄, places way code v → others other code' w →
    ¬ other <+: way ∧ ¬ way <+: other

theorem apart_field {name other : String} (h : name ≠ other) (places others : Places) :
    Apart (Field name places) (Field other others) := by
  rintro _ _ _ _ _ _ ⟨-⟩ ⟨-⟩
  simp [List.cons_prefix_cons, h, Ne.symm h]

theorem Apart.or_left {places others further : Places} (h : Apart places further)
    (h' : Apart others further) : Apart (places.or others) further := by
  rintro _ _ _ _ _ _ (hplace | hplace)
  · exact h hplace
  · exact h' hplace

theorem Apart.or_right {places others further : Places} (h : Apart places others)
    (h' : Apart places further) : Apart places (others.or further) := by
  rintro _ _ _ _ _ _ hplace (hother | hother)
  · exact h hplace hother
  · exact h' hplace hother

end Places

/-- The templates of a value that are not empty are filled in. Outside of them everything stays, in
its order. -/
structure Redrawn (places : Places) (slots : Slots) (v w : Value) : Prop where
  filled : ∀ way encodeQuery template, places way encodeQuery template →
    v.at? way = some template → template.truthy = true →
      ∃ text, Template.fill template (.object slots) encodeQuery = .ok text ∧
        w.at? way = some (.text text)
  framed : ∀ way, (∀ front encodeQuery template, front <+: way → places front encodeQuery template →
    v.at? front = some template → template.truthy = false) →
      (w.at? way).map Value.outline = (v.at? way).map Value.outline
  apart : ∀ way, (∀ other encodeQuery template, places other encodeQuery template →
    ¬ other <+: way ∧ ¬ way <+: other) → w.at? way = v.at? way

namespace Redrawn

variable {places others : Places} {slots : Slots} {u v w : Value}

theorem congr (h : Redrawn places slots v w)
    (hplaces : ∀ way code template, others way code template ↔ places way code template) :
    Redrawn others slots v w := by
  obtain rfl : others = places := by
    funext way code template
    exact propext (hplaces way code template)
  exact h

/-- A value without templates stays. -/
theorem refl (h : ∀ way code template, places way code template → v.at? way = some template →
    template.truthy = false) : Redrawn places slots v v where
  filled way code template hplace hat htruthy := by
    cases htruthy.symm.trans (h way code template hplace hat)
  framed _ _ := rfl
  apart _ _ := rfl

/-- Templates at places apart may be filled in one after the other. -/
theorem trans (h : Redrawn places slots u v) (h' : Redrawn others slots v w)
    (hapart : places.Apart others) : Redrawn (places.or others) slots u w where
  filled way code template hplace hat htruthy := by
    rcases hplace with hplace | hplace
    · obtain ⟨text, htext, hfilled⟩ := h.filled way code template hplace hat htruthy
      refine ⟨text, htext, (h'.apart way fun _ _ _ hother => ?_).trans hfilled⟩
      exact hapart hplace hother
    · refine h'.filled way code template hplace ?_ htruthy
      exact (h.apart way fun _ _ _ hother => (hapart hother hplace).symm).trans hat
  framed way hway := by
    refine (h'.framed way fun front code template hfront hplace hat => ?_).trans
      (h.framed way fun front code template hfront hplace => ?_)
    · have hsame := h.apart front fun _ _ _ hother => (hapart hother hplace).symm
      exact hway front code template hfront (.inr hplace) (hsame.symm.trans hat)
    · exact hway front code template hfront (.inl hplace)
  apart way hway :=
    (h'.apart way fun other code template hplace => hway other code template (.inr hplace)).trans
      (h.apart way fun other code template hplace => hway other code template (.inl hplace))

/-- A template is replaced as a whole. -/
theorem whole {encodeQuery : Bool} {text : String} (hplace : places [] encodeQuery v)
    (honly : ∀ way code template, places way code template → way = [] ∧ code = encodeQuery)
    (htext : Template.fill v (.object slots) encodeQuery = .ok text) (htruthy : v.truthy = true) :
    Redrawn places slots v (.text text) where
  filled way code template hother hat _ := by
    obtain ⟨rfl, rfl⟩ := honly way code template hother
    cases hat
    exact ⟨text, htext, rfl⟩
  framed way h := by cases htruthy.symm.trans (h [] encodeQuery v List.nil_prefix hplace rfl)
  apart way h := absurd List.nil_prefix (h [] encodeQuery v hplace).1

/-- A list or an object is redrawn part by part. -/
theorem parts (houtline : w.outline = v.outline) (hsome : places.Inhabited)
    (hbelow : ∀ code template, ¬ places [] code template)
    (h : ∀ access, (v.child? access = none ∧ w.child? access = none) ∨
      ∃ x y, v.child? access = some x ∧ w.child? access = some y ∧
        Redrawn (places.below access) slots x y) : Redrawn places slots v w where
  filled way code template hplace hat htruthy := by
    cases way with
    | nil => cases hbelow code template hplace
    | cons access way =>
        rw [Value.at?_cons] at hat ⊢
        rcases h access with ⟨hv, -⟩ | ⟨x, y, hv, hw, hxy⟩
        · rw [hv] at hat
          cases hat
        · rw [hv] at hat
          rw [hw]
          exact hxy.filled way code template hplace hat htruthy
  framed way hway := by
    cases way with
    | nil => exact congrArg some houtline
    | cons access way =>
        rw [Value.at?_cons, Value.at?_cons]
        rcases h access with ⟨hv, hw⟩ | ⟨x, y, hv, hw, hxy⟩
        · rw [hv, hw]
        · rw [hv, hw]
          refine hxy.framed way fun front code template hfront hplace hat => ?_
          refine hway (access :: front) code template ?_ hplace ?_
          · exact (List.prefix_cons_inj access).2 hfront
          · rw [Value.at?_cons, hv]
            exact hat
  apart way hway := by
    cases way with
    | nil =>
        obtain ⟨way, code, template, hplace⟩ := hsome
        exact absurd List.nil_prefix (hway way code template hplace).2
    | cons access way =>
        rw [Value.at?_cons, Value.at?_cons]
        rcases h access with ⟨hv, hw⟩ | ⟨x, y, hv, hw, hxy⟩
        · rw [hv, hw]
        · rw [hv, hw]
          refine hxy.apart way fun other code template hplace => ?_
          have hways := hway (access :: other) code template hplace
          rwa [List.prefix_cons_inj, List.prefix_cons_inj] at hways

section Fields

variable {data : Mapping Value} {name : String}

/-- What is no object has no fields to redraw. -/
theorem of_ne (h : ∀ fields, v ≠ .object fields)
    (hkeys : ∀ way code template, places way code template → ∃ name rest, way = .key name :: rest) :
    Redrawn places slots v v := by
  refine .refl fun way code template hplace hat => ?_
  obtain ⟨name, rest, rfl⟩ := hkeys way code template hplace
  rw [Value.at?_cons] at hat
  cases v with
  | object fields => cases h fields rfl
  | null | bool | int | float | text | list => cases hat

/-- One field of an object is redrawn. -/
theorem field (hv : Mapping.get? data name = some v) (hsome : places.Inhabited)
    (h : Redrawn places slots v w) :
    Redrawn (places.Field name) slots (.object data) (.object (Mapping.set data name w)) := by
  have hname : name ∈ Mapping.keys data := by
    by_contra hname
    rw [Mapping.get?_eq_none_iff.2 hname] at hv
    cases hv
  have houtline :
      (Value.object (Mapping.set data name w)).outline = (Value.object data).outline := by
    rw [Value.outline, Value.outline, Mapping.keys_set, if_pos hname]
  refine parts houtline (hsome.field name) (fun _ _ => Places.not_field_nil) fun access => ?_
  cases access with
  | index place => exact .inl ⟨rfl, rfl⟩
  | key other =>
      simp only [Value.child?, Mapping.get?_set]
      by_cases hother : name = other
      · subst hother
        exact .inr ⟨v, w, hv, if_pos rfl, h.congr fun _ _ _ => Places.field_key_iff⟩
      · rw [if_neg hother]
        cases hx : Mapping.get? data other with
        | none => exact .inl ⟨rfl, rfl⟩
        | some x =>
            refine .inr ⟨x, x, rfl, rfl, .refl fun way code template hplace => ?_⟩
            cases hplace
            exact absurd rfl hother

/-- A field that the object does not have is not redrawn. -/
theorem field_of_none (h : Mapping.get? data name = none) :
    Redrawn (places.Field name) slots (.object data) (.object data) := by
  refine .refl ?_
  rintro _ _ _ ⟨-⟩ hat
  rw [Value.at?_cons, Value.child?, h] at hat
  cases hat

end Fields

section Lists

variable {f : Value → Except Fault Value} {data : Mapping Value} {name : String}

theorem list {items filled : List Value} (hsome : places.Inhabited)
    (hfilled : items.mapM f = .ok filled) (h : ∀ x y, f x = .ok y → Redrawn places slots x y) :
    Redrawn places.Items slots (.list items) (.list filled) := by
  obtain ⟨hlength, hitems⟩ := List.forall₂_iff_get.1 (forall₂_of_mapM hfilled)
  refine parts (congrArg Value.Outline.list hlength.symm) hsome.items
    (fun _ _ => Places.not_items_nil) fun access => ?_
  cases access with
  | key name => exact .inl ⟨rfl, rfl⟩
  | index place =>
      by_cases hplace : place < items.length
      · refine .inr ⟨items[place], filled[place], List.getElem?_eq_getElem hplace,
          List.getElem?_eq_getElem (hlength ▸ hplace), ?_⟩
        exact (h _ _ (hitems place hplace (hlength ▸ hplace))).congr fun _ _ _ =>
          Places.items_index_iff
      · rw [Nat.not_lt] at hplace
        exact .inl ⟨List.getElem?_eq_none hplace, List.getElem?_eq_none (hlength ▸ hplace)⟩

/-- What is no list has no items to redraw. -/
theorem field_of_ne (h : ∀ items, Mapping.get? data name ≠ some (.list items)) :
    Redrawn (places.Items.Field name) slots (.object data) (.object data) := by
  refine .refl ?_
  rintro _ _ _ ⟨⟨place, -⟩⟩ hat
  rw [Value.at?_cons, Value.child?] at hat
  obtain ⟨v, hv, hat⟩ := Option.bind_eq_some_iff.1 hat
  rw [Value.at?_cons] at hat
  cases v with
  | list items => cases h items hv
  | null | bool | int | float | text | object => cases hat

end Lists

end Redrawn

namespace Node

variable {slots : Slots} {encodeQuery : Bool} {name : String} {data filled : Mapping Value}
  {v w : Value}

theorem fillField_redrawn (h : fillField slots encodeQuery name data = .ok filled) :
    Redrawn ((Places.here encodeQuery).Field name) slots (.object data) (.object filled) := by
  unfold fillField at h
  split at h
  · rename_i v hv
    split at h
    · rename_i htruthy
      obtain ⟨text, htext, h⟩ := exists_of_bind_ok h
      cases h
      exact .field hv ⟨[], encodeQuery, v, rfl, rfl⟩
        (.whole ⟨rfl, rfl⟩ (fun _ _ _ hplace => hplace) htext htruthy)
    · rename_i hempty
      cases h
      refine .refl ?_
      rintro _ _ _ ⟨rfl, -⟩ hat
      rw [Value.at?_cons, Value.child?, hv] at hat
      cases hat
      exact Bool.not_eq_true _ ▸ hempty
  · rename_i hnone
    cases h
    exact .field_of_none hnone

theorem fillText_empty (data : Value) (encodeQuery : Bool) :
    Template.fillText "" data encodeQuery = .ok "" := by
  rfl

theorem fillOption_redrawn (h : fillOption slots v = .ok w) : Redrawn .text slots v w := by
  unfold fillOption at h
  split at h
  · rename_i s
    obtain ⟨text, htext, h⟩ := exists_of_bind_ok h
    cases h
    by_cases hs : s = ""
    · rw [hs, fillText_empty] at htext
      cases htext
      subst hs
      refine .refl ?_
      rintro _ _ _ ⟨rfl, -⟩ hat
      cases hat
      rfl
    · exact .whole ⟨rfl, rfl, s, rfl⟩ (fun _ _ _ hplace => ⟨hplace.1, hplace.2.1⟩) htext
        (Value.truthy_text_iff.2 hs)
  · rename_i hnotext
    cases h
    refine .refl ?_
    rintro _ _ _ ⟨rfl, -, s, rfl⟩ hat
    cases hat
    cases hnotext s rfl

theorem fillOptions_redrawn (h : fillOptions slots data = .ok filled) :
    Redrawn (Places.text.Items.Field "options") slots (.object data) (.object filled) := by
  unfold fillOptions at h
  split at h
  · rename_i options hoptions
    obtain ⟨texts, htexts, h⟩ := exists_of_bind_ok h
    cases h
    exact .field hoptions Places.inhabited_text.items
      (.list Places.inhabited_text htexts fun _ _ => fillOption_redrawn)
  · rename_i hnolist
    cases h
    exact .field_of_ne hnolist

theorem fillItems_redrawn {places : Places} {f : Value → Except Fault Value}
    (hsome : places.Inhabited) (hitem : ∀ x y, f x = .ok y → Redrawn places slots x y)
    (h : fillItems f name data = .ok filled) :
    Redrawn (places.Items.Field name) slots (.object data) (.object filled) := by
  unfold fillItems at h
  split at h
  · rename_i items hitems
    obtain ⟨texts, htexts, h⟩ := exists_of_bind_ok h
    cases h
    exact .field hitems hsome.items (.list hsome htexts hitem)
  · rename_i v hnolist hv
    have hsame : filled = data := by
      split at h
      · obtain ⟨_, -, h⟩ := exists_of_bind_ok h
        cases h
        rfl
      · cases h
        rfl
    rw [hsame]
    exact .field_of_ne fun items hitems => hnolist items (Option.some.inj (hv.symm.trans hitems))
  · rename_i hnone
    cases h
    exact .field_of_none hnone

def elementPlaces : Places :=
  (((Places.here false).Field "label").or ((Places.here false).Field "placeholder")).or
    (Places.text.Items.Field "options")

theorem fillElement_redrawn (h : fillElement slots v = .ok w) :
    Redrawn elementPlaces slots v w := by
  unfold fillElement at h
  split at h
  · rename_i fields
    obtain ⟨labelled, hlabelled, h⟩ := exists_of_bind_ok h
    obtain ⟨described, hdescribed, h⟩ := exists_of_bind_ok h
    obtain ⟨optioned, hoptioned, h⟩ := exists_of_bind_ok h
    cases h
    have hlabel := fillField_redrawn hlabelled
    have hdescription := hlabel.trans (fillField_redrawn hdescribed)
      (Places.apart_field (by decide) _ _)
    exact hdescription.trans (fillOptions_redrawn hoptioned)
      (.or_left (Places.apart_field (by decide) _ _) (Places.apart_field (by decide) _ _))
  · rename_i hnone
    cases h
    refine .of_ne hnone fun way code template hplace => ?_
    rcases hplace with (h | h) | h <;> cases h <;> exact ⟨_, _, rfl⟩

theorem fillReply_redrawn (h : fillReply slots v = .ok w) :
    Redrawn ((Places.here false).Field "display") slots v w := by
  unfold fillReply at h
  split at h
  · rename_i fields
    obtain ⟨named, hnamed, h⟩ := exists_of_bind_ok h
    cases h
    exact fillField_redrawn hnamed
  · rename_i hnone
    cases h
    refine .of_ne hnone ?_
    rintro _ _ _ ⟨-⟩
    exact ⟨_, _, rfl⟩

theorem fillForm_redrawn (h : fillForm slots data = .ok filled) :
    Redrawn (((Places.here false).Field "title").or (elementPlaces.Items.Field "elements")) slots
      (.object data) (.object filled) := by
  obtain ⟨titled, htitled, h⟩ := exists_of_bind_ok h
  have hsome : elementPlaces.Inhabited :=
    (((Places.inhabited_here false).field _).or_left _).or_left _
  exact (fillField_redrawn htitled).trans
    (fillItems_redrawn hsome (fun _ _ => fillElement_redrawn) h)
    (Places.apart_field (by decide) _ _)

/-- Where the templates stand that the user sees, and whether values are encoded there. -/
inductive Templates : Option NodeKind → Places
  | content (kind : Option NodeKind) (v : Value) : Templates kind [.key "content"] false v
  | url (v : Value) : Templates (some .iframe) [.key "url"] true v
  | title (v : Value) : Templates (some .form) [.key "title"] false v
  | label (place : Nat) (v : Value) :
      Templates (some .form) [.key "elements", .index place, .key "label"] false v
  | placeholder (place : Nat) (v : Value) :
      Templates (some .form) [.key "elements", .index place, .key "placeholder"] false v
  | option (place rank : Nat) (s : String) :
      Templates (some .form) [.key "elements", .index place, .key "options", .index rank] false
        (.text s)
  | reply (place : Nat) (v : Value) :
      Templates (some .branch) [.key "replies", .index place, .key "display"] false v

/-- The places beside the content. -/
def kindPlaces : Option NodeKind → Places
  | some .iframe => (Places.here true).Field "url"
  | some .form => ((Places.here false).Field "title").or (elementPlaces.Items.Field "elements")
  | some .branch => ((Places.here false).Field "display").Items.Field "replies"
  | _ => fun _ _ _ => False

theorem templates_iff (kind : Option NodeKind) (way : List Access) (code : Bool) (v : Value) :
    Templates kind way code v ↔
      ((Places.here false).Field "content").or (kindPlaces kind) way code v := by
  constructor
  · intro h
    cases h with
    | content => exact .inl ⟨rfl, rfl⟩
    | url => exact .inr ⟨rfl, rfl⟩
    | title => exact .inr (.inl ⟨rfl, rfl⟩)
    | label place => exact .inr (.inr ⟨⟨place, .inl (.inl ⟨rfl, rfl⟩)⟩⟩)
    | placeholder place => exact .inr (.inr ⟨⟨place, .inl (.inr ⟨rfl, rfl⟩)⟩⟩)
    | option place rank s =>
        exact .inr (.inr ⟨⟨place, .inr ⟨⟨rank, ⟨rfl, rfl, s, rfl⟩⟩⟩⟩⟩)
    | reply place => exact .inr ⟨⟨place, ⟨rfl, rfl⟩⟩⟩
  · rintro (⟨⟨rfl, rfl⟩⟩ | h)
    · exact .content kind v
    · unfold kindPlaces at h
      split at h
      · obtain ⟨rfl, rfl⟩ := h
        exact .url v
      · rcases h with ⟨⟨rfl, rfl⟩⟩ | ⟨⟨place, h⟩⟩
        · exact .title v
        · rcases h with (⟨⟨rfl, rfl⟩⟩ | ⟨⟨rfl, rfl⟩⟩) | ⟨⟨rank, ⟨rfl, rfl, s, rfl⟩⟩⟩
          · exact .label place v
          · exact .placeholder place v
          · exact .option place rank s
      · obtain ⟨⟨place, ⟨rfl, rfl⟩⟩⟩ := h
        exact .reply place v
      · cases h

theorem not_kindPlaces {kind : Option NodeKind} (hframe : kind ≠ some .iframe)
    (hform : kind ≠ some .form) (hbranch : kind ≠ some .branch) (way : List Access) (code : Bool)
    (v : Value) : ¬ kindPlaces kind way code v := by
  unfold kindPlaces
  split
  · cases hframe rfl
  · cases hform rfl
  · cases hbranch rfl
  · exact not_false

theorem fillKind_redrawn {kind : Option NodeKind} (h : fillKind slots kind data = .ok filled) :
    Redrawn (kindPlaces kind) slots (.object data) (.object filled) := by
  unfold fillKind at h
  split at h
  · exact fillField_redrawn h
  · exact fillForm_redrawn h
  · exact fillItems_redrawn ((Places.inhabited_here false).field _) (fun _ _ => fillReply_redrawn) h
  · rename_i hframe hform hbranch
    cases h
    exact .refl fun way code template hplace =>
      absurd hplace (not_kindPlaces hframe hform hbranch way code template)

theorem apart_kindPlaces (kind : Option NodeKind) :
    ((Places.here false).Field "content").Apart (kindPlaces kind) := by
  unfold kindPlaces
  split
  · exact Places.apart_field (by decide) _ _
  · exact .or_right (Places.apart_field (by decide) _ _) (Places.apart_field (by decide) _ _)
  · exact Places.apart_field (by decide) _ _
  · exact nofun

theorem render_redrawn {node shown : Node} (h : node.render slots = .ok shown) :
    ∃ data, shown = { node with data := data } ∧
      Redrawn (Templates node.kind?) slots (.object (Value.storableFields node.data))
        (.object data) := by
  obtain ⟨data, hdata, h⟩ := exists_of_bind_ok h
  obtain ⟨filled, hfilled, h⟩ := exists_of_bind_ok h
  cases h
  have hredrawn := (fillField_redrawn hdata).trans (fillKind_redrawn hfilled) (apart_kindPlaces _)
  exact ⟨filled, rfl, hredrawn.congr (templates_iff node.kind?)⟩

/-- The fields of the data with templates in them, for one kind of node or another. -/
def templateFields : List String := ["content", "url", "title", "elements", "replies"]

section Kept

variable {kind : Option NodeKind}

theorem exists_of_templates {way : List Access} {code : Bool} (h : Templates kind way code v) :
    ∃ name ∈ templateFields, ∃ rest, way = .key name :: rest := by
  cases h <;> exact ⟨_, by decide, _, rfl⟩

theorem get_of_redrawn (h : Redrawn (Templates kind) slots (.object data) (.object filled))
    (hname : name ∉ templateFields) : Mapping.get? filled name = Mapping.get? data name := by
  have hsame := h.apart [.key name] fun other code template hplace => by
    obtain ⟨field, hfield, rest, rfl⟩ := exists_of_templates hplace
    have hne : field ≠ name := fun heq => hname (heq ▸ hfield)
    simp [List.cons_prefix_cons, hne, hne.symm]
  simpa [Value.at?_cons, Value.child?, Value.at?] using hsame

theorem reply_of_redrawn (h : Redrawn (Templates kind) slots (.object data) (.object filled))
    (place : Nat) (hname : name ≠ "display") :
    (Value.object filled).at? [.key "replies", .index place, .key name] =
      (Value.object data).at? [.key "replies", .index place, .key name] := by
  refine h.apart _ fun other code template hplace => ?_
  cases hplace <;> simp [List.cons_prefix_cons, hname, hname.symm]

end Kept

/-- A node is shown with its id, its type and its data in the form in which data is stored, of which
only the templates that the user sees are filled in. Fields without templates stay whole, and so
does all of a reply but its display. -/
theorem shown_apart_from_templates {node shown : Node} (h : node.render slots = .ok shown) :
    shown.id = node.id ∧ shown.type = node.type ∧
      Redrawn (Templates node.kind?) slots (.object (Value.storableFields node.data))
        (.object shown.data) ∧
      (∀ name, name ∉ templateFields → shown.get name = (node.get name).storable) ∧
      ∀ place name, name ≠ "display" →
        (Value.object shown.data).at? [.key "replies", .index place, .key name] =
          (Value.object (Value.storableFields node.data)).at?
            [.key "replies", .index place, .key name] := by
  obtain ⟨data, rfl, hredrawn⟩ := render_redrawn h
  refine ⟨rfl, rfl, hredrawn, fun name hname => ?_, fun place name hname => ?_⟩
  · rw [get, get, get_of_redrawn hredrawn hname, Mapping.get?_storableFields]
    cases Mapping.get? node.data name <;> rfl
  · exact reply_of_redrawn hredrawn place hname

namespace Sample

def menu : Node where
  id := "menu"
  type := "branch"
  data := [("content", .text "Pick, \x7bname\x7d"), ("replies", .list [
    .object [("display", .text "Yes, \x7bname\x7d"), ("value", .text "\x7bname\x7d")],
    .object [("display", .text ""), ("value", .int 1)]])]

def shownMenu : Node where
  id := "menu"
  type := "branch"
  data := [("content", .text "Pick, Ann"), ("replies", .list [
    .object [("display", .text "Yes, Ann"), ("value", .text "\x7bname\x7d")],
    .object [("display", .text ""), ("value", .int 1)]])]

def quota : Node := ⟨"quota", "message", [("limit", .float (1.0 / 0.0)), ("content", .text "Hi")]⟩

end Sample

/-- The values of replies stay, even if they look like templates. -/
theorem reply_value_is_shown :
    Sample.menu.render [("name", .text "Ann")] = .ok Sample.shownMenu ∧
      (Value.object Sample.shownMenu.data).at? [.key "replies", .index 0, .key "value"] =
        some (.text "\x7bname\x7d") := by
  have hshown : Sample.menu.render [("name", .text "Ann")] = .ok Sample.shownMenu := by rfl
  exact ⟨hshown, (shown_apart_from_templates hshown).2.2.2.2 0 "value" (by decide)⟩

theorem infinity_is_shown_as_null :
    ∃ shown, Sample.quota.render [] = .ok shown ∧ "limit" ∉ templateFields ∧
      shown.get "limit" = .null ∧ Sample.quota.get "limit" ≠ .null := by
  have hlimit : Sample.quota.get "limit" = .float (1.0 / 0.0) := rfl
  refine ⟨{ Sample.quota with data := [("limit", .null), ("content", .text "Hi")] }, by rfl,
    by decide, rfl, ?_⟩
  rw [hlimit]
  nofun

end Node

end Dialogue
