import Dialogue.Proofs.Session.Fields
import Dialogue.Proofs.Session.Record
import Mathlib.Data.List.Induction
/-!
What a store has come to after any calls. Each record is a session that one of the calls has made,
in the version that counts its updates since.
-/
namespace Dialogue.Store

/-- A call to a store. -/
inductive Op where
  | create (now : Moment) (conversation scenario slots language : Value)
  | read (now : Moment) (id : String)
  | update (now : Moment) (id : String) (expected : Value) (fields : Mapping Value)
  | delete (id : String)
  | list (conversation : String)

inductive Answer where
  | created (id : String)
  | found (session : Option Session)
  | updated (session : Session)
  | removed (held : Bool)
  | listed (summaries : List Summary)

/-- The answer to a call, and the store after it. -/
def perform (store : Store) : Op → Except Fault Answer × Store
  | .create now conversation scenario slots language =>
      let (made, next) := store.create now conversation scenario slots language
      (made.map .created, next)
  | .read now id => ((store.read now id).map .found, store)
  | .update now id expected fields =>
      match store.updateFields now id expected fields with
      | .ok (session, next) => (.ok (.updated session), next)
      | .error fault => (.error fault, store)
  | .delete id =>
      let (held, next) := store.delete id
      (.ok (.removed held), next)
  | .list conversation => ((store.list conversation).map .listed, store)

def after (store : Store) (ops : List Op) : Store :=
  ops.foldl (fun store op => (store.perform op).2) store

/-- The call is an update of the session, and the reply says that it went through. -/
def Op.revises (id : String) : Op → Except Fault Answer → Bool
  | .update _ other _ _, .ok _ => other = id
  | _, _ => false

/-- How often the calls update the session. -/
def revisions (id : String) : Store → List Op → Nat
  | _, [] => 0
  | store, op :: rest =>
      (if op.revises id (store.perform op).1 then 1 else 0) +
        revisions id (store.perform op).2 rest

theorem after_append (store : Store) (earlier later : List Op) :
    store.after (earlier ++ later) = (store.after earlier).after later :=
  List.foldl_append

theorem revisions_append (id : String) (store : Store) (earlier later : List Op) :
    revisions id store (earlier ++ later) =
      revisions id store earlier + revisions id (store.after earlier) later := by
  induction earlier generalizing store with
  | nil => exact (Nat.zero_add _).symm
  | cons op rest ih =>
      have hrest := ih (store.perform op).2
      simp only [List.cons_append, revisions, hrest, Nat.add_assoc]
      rfl

/-- The update goes through: it comes at the version that it expects, to a session that is there,
and names only fields that may change, with values that they can take. -/
structure Accepts (store : Store) (id : String) (expected : Value) (fields : Mapping Value)
    (s : Session) (change : Session.Change) : Prop where
  free : ∀ name ∈ Mapping.keys fields, name ∉ Session.Change.reservedNames
  found : store.record? id = some s
  current : expected.isNull = false → Entry.count? expected = some s.version
  known : ∀ name ∈ Mapping.keys fields,
    name ∈ Session.Change.knownFields ∧ name ∉ Session.Change.fixedFields
  readable : Session.Change.read fields = .ok change

theorem isSameVersion_int (n : Int) (expected : Value) :
    Entry.isSameVersion (.int n) expected = true ↔ Entry.count? expected = some n := by
  have hsame : Entry.isSameVersion (.int n) expected =
      decide (some n = Entry.count? expected) := by cases expected <;> rfl
  rw [hsame, decide_eq_true_iff, eq_comm]

theorem expect_known_iff (id : String) (expected : Value) (s : Session) :
    Entry.expect id expected (.known s) = .ok () ↔ Entry.count? expected = some s.version := by
  rw [← isSameVersion_int]
  simp only [Entry.expect, Entry.version, bind, Except.bind]
  cases Entry.isSameVersion (.int s.version) expected with
  | true => exact ⟨fun _ => rfl, fun _ => rfl⟩
  | false =>
      simp only [Bool.not_false, ↓reduceIte, Bool.false_eq_true, iff_false]
      cases expected.display with
      | error fault => rintro ⟨⟩
      | ok shown => cases (Value.int s.version).display <;> rintro ⟨⟩

theorem checkNames_iff (names : List String) :
    Session.Change.checkNames names = .ok () ↔
      ∀ name ∈ names, name ∈ Session.Change.knownFields ∧ name ∉ Session.Change.fixedFields := by
  have hunknown : (names.filter fun name => !Session.Change.knownFields.contains name) = [] ↔
      ∀ name ∈ names, name ∈ Session.Change.knownFields := by
    simp [List.filter_eq_nil_iff]
  have hfixed : names.filter Session.Change.fixedFields.contains = [] ↔
      ∀ name ∈ names, name ∉ Session.Change.fixedFields := by
    simp [List.filter_eq_nil_iff]
  have hboth : (∀ name ∈ names,
        name ∈ Session.Change.knownFields ∧ name ∉ Session.Change.fixedFields) ↔
      (names.filter fun name => !Session.Change.knownFields.contains name) = [] ∧
        names.filter Session.Change.fixedFields.contains = [] := by
    rw [hunknown, hfixed]
    exact ⟨fun h => ⟨fun n hn => (h n hn).1, fun n hn => (h n hn).2⟩,
      fun h n hn => ⟨h.1 n hn, h.2 n hn⟩⟩
  rw [hboth]
  unfold Session.Change.checkNames
  cases names.filter fun name => !Session.Change.knownFields.contains name with
  | cons name rest => exact ⟨nofun, nofun⟩
  | nil =>
      cases names.filter Session.Change.fixedFields.contains with
      | cons name rest => exact ⟨nofun, nofun⟩
      | nil => exact ⟨fun _ => ⟨rfl, rfl⟩, fun _ => rfl⟩

variable {store next : Store}

theorem Orderly.set_eq (h : store.Orderly) {id : String} {s : Session}
    (hs : store.record? id = some s) (now : Moment) (change : Session.Change) :
    { store with entries := Mapping.set store.entries id (.known (s.revise now change).storable) } =
      store.put (s.revise now change) := by
  rw [← (h.of_record hs).1]
  rfl

/-- Fails if a version is expected that is not the one of the session. -/
def checkVersion (id : String) (expected : Value) (s : Session) : Except Fault Unit :=
  if expected.isNull then .ok () else Entry.expect id expected (.known s)

theorem checkVersion_iff (id : String) (expected : Value) (s : Session) :
    checkVersion id expected s = .ok () ↔
      (expected.isNull = false → Entry.count? expected = some s.version) := by
  rw [checkVersion, ← expect_known_iff id]
  cases expected.isNull with
  | true => exact ⟨fun _ => nofun, fun _ => rfl⟩
  | false => exact ⟨fun h _ => h, fun h => h rfl⟩

theorem Orderly.current_eq (h : store.Orderly) (id : String) (expected : Value) :
    store.current id expected = match store.record? id with
      | none => .error (.sessionNotFound id)
      | some s => (checkVersion id expected s).map fun _ => .known s := by
  simp only [Store.current, h.entry_eq id, checkVersion]
  cases store.record? id with
  | none => rfl
  | some s =>
      cases expected.isNull with
      | true => rfl
      | false =>
          cases hexpect : Entry.expect id expected (.known s) <;>
            simp [hexpect, bind, Except.bind, Except.map, pure, Except.pure]

/-- What is checked before an update, in this order. -/
def checkUpdate (store : Store) (id : String) (expected : Value) (fields : Mapping Value) :
    Except Fault Session :=
  if (Mapping.keys fields).any Session.Change.reservedNames.contains then
    .error (.clash .repeatedArgument)
  else
    match store.record? id with
    | none => .error (.sessionNotFound id)
    | some s => do
        checkVersion id expected s
        Session.Change.checkNames (Mapping.keys fields)
        return s

theorem Orderly.updateFields_eq (h : store.Orderly) (now : Moment) (id : String)
    (expected : Value) (fields : Mapping Value) :
    store.updateFields now id expected fields = do
      let s ← store.checkUpdate id expected fields
      let session := s.revise now (← Session.Change.read fields)
      return (session, store.put session) := by
  simp only [Store.updateFields, checkUpdate, h.current_eq]
  cases (Mapping.keys fields).any Session.Change.reservedNames.contains with
  | true => rfl
  | false =>
      cases hs : store.record? id with
      | none => rfl
      | some s =>
          have hset (change : Session.Change) := h.set_eq hs now change
          cases hcheck : checkVersion id expected s <;>
            cases Session.Change.checkNames (Mapping.keys fields) <;>
            cases Session.Change.read fields <;>
            simp [hset, hcheck, bind, Except.bind, Except.map, pure, Except.pure]

theorem checkUpdate_iff {id : String} {expected : Value} {fields : Mapping Value} {s : Session} :
    store.checkUpdate id expected fields = .ok s ↔
      (∀ name ∈ Mapping.keys fields, name ∉ Session.Change.reservedNames) ∧
        store.record? id = some s ∧
        (expected.isNull = false → Entry.count? expected = some s.version) ∧
        ∀ name ∈ Mapping.keys fields,
          name ∈ Session.Change.knownFields ∧ name ∉ Session.Change.fixedFields := by
  have hfree : (∀ name ∈ Mapping.keys fields, name ∉ Session.Change.reservedNames) ↔
      (Mapping.keys fields).any Session.Change.reservedNames.contains = false := by
    simp [List.any_eq_false]
  rw [hfree, ← checkNames_iff, ← checkVersion_iff id]
  unfold checkUpdate
  cases (Mapping.keys fields).any Session.Change.reservedNames.contains with
  | true => exact ⟨nofun, fun h => nomatch h.1⟩
  | false =>
      cases store.record? id with
      | none => exact ⟨nofun, fun h => nomatch h.2.1⟩
      | some t =>
          constructor
          · intro h
            obtain ⟨⟨⟩, hversion, h⟩ := exists_of_bind_ok h
            obtain ⟨⟨⟩, hnames, h⟩ := exists_of_bind_ok h
            cases h
            exact ⟨rfl, rfl, hversion, hnames⟩
          · rintro ⟨-, ⟨⟩, hversion, hnames⟩
            simp only [hversion, hnames]
            rfl

/-- An update goes through just if it is accepted. -/
theorem Orderly.updateFields_ok_iff (h : store.Orderly) {now : Moment} {id : String}
    {expected : Value} {fields : Mapping Value} {session : Session} :
    store.updateFields now id expected fields = .ok (session, next) ↔
      ∃ s change, store.Accepts id expected fields s change ∧ session = s.revise now change ∧
        next = store.put session := by
  rw [h.updateFields_eq]
  constructor
  · intro hupdate
    obtain ⟨s, hchecked, hupdate⟩ := exists_of_bind_ok hupdate
    obtain ⟨change, hread, hupdate⟩ := exists_of_bind_ok hupdate
    obtain ⟨hfree, hfound, hcurrent, hknown⟩ := checkUpdate_iff.1 hchecked
    cases hupdate
    exact ⟨s, change, ⟨hfree, hfound, hcurrent, hknown, hread⟩, rfl, rfl⟩
  · rintro ⟨s, change, ⟨hfree, hfound, hcurrent, hknown, hread⟩, rfl, rfl⟩
    rw [checkUpdate_iff.2 ⟨hfree, hfound, hcurrent, hknown⟩, hread]
    rfl

/-- What a call can do to a store of known sessions. -/
inductive Effect (store : Store) : Op → Except Fault Answer → Store → Prop where
  | made {now : Moment} {conversation scenario language : String} {slots lang : Value}
      {fields : Slots} :
      Effect store (.create now (.text conversation) (.text scenario) slots lang)
        (.ok (.created store.freshId))
        ({ store with given := store.given + 1 }.put
          (start now store.freshId conversation scenario language fields))
  | unmade {now : Moment} {conversation scenario slots language : Value} {fault : Fault} :
      Effect store (.create now conversation scenario slots language) (.error fault)
        { store with given := store.given + 1 }
  | revised {now : Moment} {id : String} {expected : Value} {fields : Mapping Value} {s : Session}
      {change : Session.Change} (accepts : store.Accepts id expected fields s change) :
      Effect store (.update now id expected fields) (.ok (.updated (s.revise now change)))
        (store.put (s.revise now change))
  | unrevised {now : Moment} {id : String} {expected : Value} {fields : Mapping Value}
      {fault : Fault} (refuses : ∀ s change, ¬ store.Accepts id expected fields s change) :
      Effect store (.update now id expected fields) (.error fault) store
  | deleted {id : String} {held : Bool} :
      Effect store (.delete id) (.ok (.removed held)) (store.delete id).2
  | found {now : Moment} {id : String} :
      Effect store (.read now id) (.ok (.found (store.record? id))) store
  | listed {conversation : String} {answer : Except Fault (List Summary)} :
      Effect store (.list conversation) (answer.map .listed) store

theorem Orderly.effect (h : store.Orderly) {op : Op} {reply : Except Fault Answer}
    (hop : store.perform op = (reply, next)) : Effect store op reply next := by
  cases op with
  | create now conversation scenario slots language =>
      rcases create_start conversation scenario slots language with
        ⟨conv, scen, lang, fields, rfl, rfl, hmade⟩ | ⟨fault, hmade⟩
      · simp only [perform, hmade] at hop
        cases hop
        exact .made
      · simp only [perform, hmade] at hop
        cases hop
        exact .unmade
  | read now id =>
      simp only [perform, h.read_eq] at hop
      cases hop
      exact .found
  | update now id expected fields =>
      simp only [perform] at hop
      cases hupdate : store.updateFields now id expected fields with
      | error fault =>
          rw [hupdate] at hop
          cases hop
          refine .unrevised fun s change haccepts => ?_
          have hok : store.updateFields now id expected fields =
              .ok (s.revise now change, store.put (s.revise now change)) :=
            h.updateFields_ok_iff.2 ⟨s, change, haccepts, rfl, rfl⟩
          exact nomatch hupdate.symm.trans hok
      | ok result =>
          rw [hupdate] at hop
          obtain ⟨s, change, haccepts, hsession, hnext⟩ := h.updateFields_ok_iff.1 hupdate
          cases hop
          rw [hsession] at hnext
          rw [hnext, hsession]
          exact .revised haccepts
  | delete id =>
      cases hop
      exact .deleted
  | list conversation =>
      cases hop
      exact .listed

theorem Orderly.effect_perform (h : store.Orderly) (op : Op) :
    Effect store op (store.perform op).1 (store.perform op).2 := h.effect rfl

/-- What is true of a store whatever it has been called for. -/
structure Sound (store : Store) : Prop where
  orderly : store.Orderly
  issued : ∀ id s, store.record? id = some s → store.Issued id

theorem sound_empty : Sound empty where
  orderly := orderly_empty
  issued := by rintro id s ⟨⟩

theorem Effect.sound {op : Op} {reply : Except Fault Answer} (h : store.Sound)
    (he : Effect store op reply next) : next.Sound ∧ store.given ≤ next.given := by
  obtain ⟨horderly, hissued⟩ := h
  cases he with
  | made =>
      refine ⟨⟨Orderly.put horderly _, fun id s hs => ?_⟩, Nat.le_succ _⟩
      rw [record?_put] at hs
      split at hs
      · rename_i hid
        exact hid ▸ issued_freshId (Nat.lt_succ_self _)
      · exact (hissued id s hs).mono (Nat.le_succ _)
  | unmade => exact ⟨⟨horderly, fun id s hs => (hissued id s hs).mono (Nat.le_succ _)⟩, Nat.le_succ _⟩
  | @revised now id expected fields s change accepts =>
      refine ⟨⟨horderly.put _, fun other t ht => ?_⟩, Nat.le_refl _⟩
      rw [record?_put] at ht
      split at ht
      · rename_i hid
        have hid : id = other := (horderly.of_record accepts.found).1.symm.trans hid
        exact hissued other s (hid ▸ accepts.found)
      · exact hissued other t ht
  | unrevised => exact ⟨⟨horderly, hissued⟩, Nat.le_refl _⟩
  | deleted =>
      refine ⟨⟨horderly.delete _, fun id s hs => ?_⟩, Nat.le_of_eq (given_delete _ _).symm⟩
      rw [record?_delete] at hs
      split at hs
      · cases hs
      · obtain ⟨n, hn, hid⟩ := hissued id s hs
        exact ⟨n, (given_delete _ _).symm ▸ hn, hid⟩
  | found => exact ⟨⟨horderly, hissued⟩, Nat.le_refl _⟩
  | listed => exact ⟨⟨horderly, hissued⟩, Nat.le_refl _⟩

theorem Sound.perform (h : store.Sound) (op : Op) :
    (store.perform op).2.Sound ∧ store.given ≤ (store.perform op).2.given :=
  Effect.sound h (h.orderly.effect_perform op)

theorem Sound.after (h : store.Sound) (ops : List Op) :
    (store.after ops).Sound ∧ store.given ≤ (store.after ops).given := by
  induction ops generalizing store with
  | nil => exact ⟨h, Nat.le_refl _⟩
  | cons op rest ih =>
      obtain ⟨hnext, hgiven⟩ := h.perform op
      obtain ⟨hlater, hmore⟩ := ih hnext
      exact ⟨hlater, Nat.le_trans hgiven hmore⟩

/-- What never changes of a session is the same of both. -/
structure Kin (s t : Session) : Prop where
  id : t.id = s.id
  conversation : t.conversation = s.conversation
  scenario : t.scenario = s.scenario
  created : t.created = s.created

theorem kin_refl (s : Session) : Kin s s := ⟨rfl, rfl, rfl, rfl⟩

theorem kin_revise (s : Session) (now : Moment) (change : Session.Change) :
    Kin s (s.revise now change).storable := ⟨rfl, rfl, rfl, rfl⟩

/-- A record after a call is a new one, or one from before in the version that counts the call. -/
theorem Effect.record_cases {op : Op} {reply : Except Fault Answer} (h : store.Orderly)
    (he : Effect store op reply next) {id : String} {t : Session} (ht : next.record? id = some t) :
    (∃ s, store.record? id = some s ∧ Kin s t ∧
        t.version = s.version + if op.revises id reply then 1 else 0) ∨
      id = store.freshId ∧ reply = .ok (.created id) ∧ t.version = 0 ∧ ∃ slots language,
        op = .create t.created (.text t.conversation) (.text t.scenario) slots language := by
  have hsame {s : Session} (hs : store.record? id = some s) (hnot : op.revises id reply = false) :
      ∃ s', store.record? id = some s' ∧ Kin s' s ∧
        s.version = s'.version + if op.revises id reply then 1 else 0 :=
    ⟨s, hs, kin_refl s, by simp [hnot]⟩
  cases he with
  | made =>
      rw [record?_put] at ht
      split at ht
      · rename_i hid
        cases ht
        exact .inr ⟨hid.symm, congrArg (fun made => Except.ok (Answer.created made)) hid, rfl, _, _, rfl⟩
      · exact .inl (hsame ht rfl)
  | unmade => exact .inl (hsame ht rfl)
  | @revised now other expected fields s change accepts =>
      have hother := (h.of_record accepts.found).1
      rw [record?_put] at ht
      split at ht
      · rename_i hid
        cases ht
        have hid : other = id := hother.symm.trans hid
        refine .inl ⟨s, hid ▸ accepts.found, kin_revise s now change, ?_⟩
        simp [Op.revises, hid, Session.storable, Session.revise]
      · rename_i hid
        refine .inl (hsame ht (decide_eq_false fun heq => hid ?_))
        exact hother.trans heq
  | unrevised => exact .inl (hsame ht rfl)
  | deleted =>
      rw [record?_delete] at ht
      split at ht
      · cases ht
      · exact .inl (hsame ht rfl)
  | found => exact .inl (hsame ht rfl)
  | listed => exact .inl (hsame ht rfl)

/-- Only sessions that are there are revised. -/
theorem Effect.record?_of_revises {op : Op} {reply : Except Fault Answer}
    (he : Effect store op reply next) {id : String} (h : op.revises id reply = true) :
    ∃ s, store.record? id = some s := by
  cases he with
  | @revised now other expected fields s change accepts =>
      exact ⟨s, of_decide_eq_true h ▸ accepts.found⟩
  | _ => cases h

theorem revisions_snoc (id : String) (store : Store) (ops : List Op) (op : Op) :
    revisions id store (ops ++ [op]) = revisions id store ops +
      if op.revises id ((store.after ops).perform op).1 then 1 else 0 := by
  rw [revisions_append]
  rfl

theorem after_snoc (store : Store) (ops : List Op) (op : Op) :
    store.after (ops ++ [op]) = ((store.after ops).perform op).2 :=
  after_append store ops [op]

/-- A session that has not been made has not been revised. -/
theorem revisions_of_not_issued {id : String} {ops : List Op}
    (h : ¬ (empty.after ops).Issued id) : revisions id empty ops = 0 := by
  induction ops using List.reverseRecOn with
  | nil => rfl
  | append_singleton ops op ih =>
      obtain ⟨hsound, -⟩ := sound_empty.after ops
      rw [after_snoc] at h
      have hbefore : ¬ (empty.after ops).Issued id := fun hissued =>
        h (hissued.mono (hsound.perform op).2)
      rw [revisions_snoc, ih hbefore, Nat.zero_add]
      split
      · rename_i hrevises
        obtain ⟨s, hs⟩ := (hsound.orderly.effect_perform op).record?_of_revises hrevises
        exact absurd (hsound.issued id s hs) hbefore
      · rfl

/-- One of the calls has made the session with all that never changes of it, and its version counts
the updates since. -/
def Traced (ops : List Op) (s : Session) : Prop :=
  ∃ earlier later slots language,
    let creation := Op.create s.created (.text s.conversation) (.text s.scenario) slots language
    ops = earlier ++ creation :: later ∧
      ((empty.after earlier).perform creation).1 = .ok (.created s.id) ∧
      s.version = revisions s.id (empty.after (earlier ++ [creation])) later

theorem Traced.snoc {ops : List Op} {s t : Session} (h : Traced ops s) (hkin : Kin s t) (op : Op)
    (hversion : t.version =
      s.version + if op.revises s.id ((empty.after ops).perform op).1 then 1 else 0) :
    Traced (ops ++ [op]) t := by
  obtain ⟨earlier, later, slots, language, hops, hmade, hcount⟩ := h
  refine ⟨earlier, later ++ [op], slots, language, ?_⟩
  rw [hkin.id, hkin.conversation, hkin.scenario, hkin.created]
  refine ⟨by rw [hops]; simp, hmade, ?_⟩
  rw [hversion, hcount, revisions_snoc, ← after_append]
  simp only [hops, List.append_assoc, List.cons_append, List.nil_append]
  split <;> simp

theorem traced_after (ops : List Op) {id : String} {s : Session}
    (hs : (empty.after ops).record? id = some s) : Traced ops s := by
  induction ops using List.reverseRecOn generalizing id s with
  | nil => cases hs
  | append_singleton ops op ih =>
      obtain ⟨hsound, -⟩ := sound_empty.after ops
      rw [after_snoc] at hs
      rcases (hsound.orderly.effect_perform op).record_cases hsound.orderly hs with
        ⟨t, ht, hkin, hversion⟩ | ⟨hid, hmade, hversion, slots, language, hop⟩
      · have hid := (hsound.orderly.of_record ht).1
        exact (ih ht).snoc hkin op (hid.symm ▸ hversion)
      · have hids := ((hsound.perform op).1.orderly.of_record hs).1
        refine ⟨ops, [], slots, language, ?_⟩
        rw [← hop]
        exact ⟨rfl, hids.symm ▸ hmade, hversion⟩

/-- Since ids are not given out again, the version counts all updates under the id. -/
theorem version_eq_revisions (ops : List Op) {id : String} {s : Session}
    (hs : (empty.after ops).record? id = some s) : s.version = revisions id empty ops := by
  induction ops using List.reverseRecOn generalizing s with
  | nil => cases hs
  | append_singleton ops op ih =>
      obtain ⟨hsound, -⟩ := sound_empty.after ops
      rw [after_snoc] at hs
      rw [revisions_snoc]
      rcases (hsound.orderly.effect_perform op).record_cases hsound.orderly hs with
        ⟨t, ht, -, hversion⟩ | ⟨rfl, -, hversion, slots, language, rfl⟩
      · rw [hversion, ih ht, Int.natCast_add]
        split <;> rfl
      · rw [hversion, revisions_of_not_issued (not_issued_freshId _)]
        rfl

/-- The update has put one record in the place of another: the session in its next version. All
fields that it does not name are as before, and so are all other records. -/
structure Replaces (store next : Store) (now : Moment) (id : String) (expected : Value)
    (fields : Mapping Value) (session : Session) : Prop where
  revised : ∃ s change, store.Accepts id expected fields s change ∧
    session = s.revise now change ∧
    ∀ name ∉ Mapping.keys fields, name ≠ "version" → name ≠ "updated_at" →
      Mapping.get? session.toFields name = Mapping.get? s.toFields name
  others : ∀ other ≠ id, next.record? other = store.record? other
  reads : Value.storableFields fields = fields →
    ∀ later, (next.perform (.read later id)).1 = .ok (.found (some session))

theorem Orderly.replaces (h : store.Orderly) {now : Moment} {id : String} {expected : Value}
    {fields : Mapping Value} {s : Session} {change : Session.Change}
    (accepts : store.Accepts id expected fields s change) :
    store.Replaces (store.put (s.revise now change)) now id expected fields
      (s.revise now change) := by
  obtain ⟨hid, hstored⟩ := h.of_record accepts.found
  refine ⟨⟨s, change, accepts, rfl, fun name hname hversion hupdated =>
    Session.get?_revise accepts.readable hname hversion hupdated s now⟩, fun other hother => ?_,
    fun hfields later => ?_⟩
  · rw [record?_put, if_neg fun heq => hother (heq.symm.trans hid)]
  · have hkept := hstored.revise_read hfields accepts.readable now
    have hid : (s.revise now change).id = id := hid
    simp only [perform, (h.put _).read_eq, record?_put, if_pos hid,
      show (s.revise now change).storable = s.revise now change from hkept]
    rfl

/-- Versions only grow: what was expected once is never found again. -/
theorem unaccepted_after {ops between : List Op} {now : Moment} {id : String}
    {expected again : Value} {fields others : Mapping Value} {s t : Session}
    {change other : Session.Change} {session : Session}
    (hupdate : ((empty.after ops).perform (.update now id expected fields)).1 =
      .ok (.updated session))
    (accepts : (empty.after ops).Accepts id expected fields s change)
    (hexpected : expected.isNull = false) (hagain : again.isNull = false)
    (hsame : Entry.count? again = Entry.count? expected) :
    ¬ (empty.after (ops ++ .update now id expected fields :: between)).Accepts id again others t
      other := by
  intro laterAccepts
  have hbefore := version_eq_revisions ops accepts.found
  have hafter := version_eq_revisions _ laterAccepts.found
  have hversions : t.version = s.version := by
    rw [laterAccepts.current hagain, accepts.current hexpected] at hsame
    exact Option.some.inj hsame
  have hrevises : Op.revises id (.update now id expected fields)
      ((empty.after ops).perform (.update now id expected fields)).1 = true := by
    rw [hupdate]
    exact decide_eq_true rfl
  rw [revisions_append, revisions, hrevises] at hafter
  simp only [↓reduceIte] at hafter
  omega

/-- After any calls every record is a session that one of them has made, in the version that counts
the updates since. The next update goes through just if it is accepted, and then replaces that
record alone; otherwise it leaves the store as it is. Once an update has gone through, no other of
the session goes through at the version that it expected. -/
theorem store_is_versioned_map (ops : List Op) :
    (∀ id s, (empty.after ops).record? id = some s → s.id = id ∧ Traced ops s) ∧
      ∀ now id expected fields,
        let update := Op.update now id expected fields
        ((∃ s change, (empty.after ops).Accepts id expected fields s change) → ∃ session,
          ((empty.after ops).perform update).1 = .ok (.updated session) ∧
            (empty.after ops).Replaces (empty.after (ops ++ [update])) now id expected fields
              session ∧
            ∀ between moment again others, expected.isNull = false → again.isNull = false →
              Entry.count? again = Entry.count? expected → ∃ fault,
                (empty.after (ops ++ update :: between)).perform
                  (.update moment id again others) =
                  (.error fault, empty.after (ops ++ update :: between))) ∧
        ((¬ ∃ s change, (empty.after ops).Accepts id expected fields s change) → ∃ fault,
          (empty.after ops).perform update = (.error fault, empty.after ops)) := by
  obtain ⟨hsound, -⟩ := sound_empty.after ops
  have hrefused {ops : List Op} {now : Moment} {id : String} {expected : Value}
      {fields : Mapping Value}
      (hnot : ¬ ∃ s change, (empty.after ops).Accepts id expected fields s change) : ∃ fault,
        (empty.after ops).perform (.update now id expected fields) =
          (.error fault, empty.after ops) := by
    cases hop : (empty.after ops).perform (.update now id expected fields) with
    | mk reply next =>
        cases (sound_empty.after ops).1.orderly.effect hop with
        | revised accepts => exact absurd ⟨_, _, accepts⟩ hnot
        | unrevised => exact ⟨_, rfl⟩
  refine ⟨fun id s hs => ⟨(hsound.orderly.of_record hs).1, traced_after ops hs⟩, ?_⟩
  intro now id expected fields update
  refine ⟨?_, hrefused⟩
  rintro ⟨s, change, accepts⟩
  have hupdate : (empty.after ops).perform update =
      (.ok (.updated (s.revise now change)), (empty.after ops).put (s.revise now change)) := by
    have hok : (empty.after ops).updateFields now id expected fields =
        .ok (s.revise now change, (empty.after ops).put (s.revise now change)) :=
      hsound.orderly.updateFields_ok_iff.2 ⟨s, change, accepts, rfl, rfl⟩
    simp only [update, perform, hok]
  refine ⟨s.revise now change, congrArg Prod.fst hupdate, ?_, ?_⟩
  · rw [after_snoc, hupdate]
    exact hsound.orderly.replaces accepts
  · intro between moment again others hexpected hagain hsame
    refine hrefused ?_
    rintro ⟨t, other, laterAccepts⟩
    exact unaccepted_after (congrArg Prod.fst hupdate) accepts hexpected hagain hsame laterAccepts

namespace Sample

def opening : List Op :=
  [.create Session.epoch (.text "c") (.text "greeting") .null (.text "en")]

def answering : Mapping Value := [("awaiting_input", .bool true)]

def opened : Session := start Session.epoch "s1" "c" "greeting" "en" []

theorem opened_accepts : (empty.after opening).Accepts "s1" (.int 0) answering opened
    { awaiting := some true } where
  free := by decide
  found := rfl
  current _ := rfl
  known := by decide
  readable := rfl

end Sample

/-- Of two writers at version zero the second one fails. -/
theorem second_writer_is_refused :
    let update := Op.update Session.epoch "s1" (.int 0) Sample.answering
    (empty.after Sample.opening).Accepts "s1" (.int 0) Sample.answering Sample.opened
        { awaiting := some true } ∧
      Traced Sample.opening Sample.opened ∧
      (∃ session, ((empty.after Sample.opening).perform update).1 = .ok (.updated session) ∧
        (empty.after Sample.opening).Replaces (empty.after (Sample.opening ++ [update]))
          Session.epoch "s1" (.int 0) Sample.answering session) ∧
      ∃ fault, (empty.after (Sample.opening ++ [update])).perform update =
        (.error fault, empty.after (Sample.opening ++ [update])) := by
  intro update
  obtain ⟨hrecords, hupdates⟩ := store_is_versioned_map Sample.opening
  obtain ⟨session, hreply, hreplaces, hlater⟩ :=
    (hupdates Session.epoch "s1" (.int 0) Sample.answering).1 ⟨_, _, Sample.opened_accepts⟩
  exact ⟨Sample.opened_accepts, (hrecords "s1" _ Sample.opened_accepts.found).2,
    ⟨session, hreply, hreplaces⟩, hlater [] Session.epoch (.int 0) Sample.answering rfl rfl rfl⟩

end Dialogue.Store
