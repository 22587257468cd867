import Dialogue.Proofs.Manager.Alike
/-!
What happens to one session. A session is launched under a number of its own, which makes its id,
and its acts come to the same wherever the same is held of it; other sessions are left as they are.
-/
namespace Dialogue

open Turn

/-- What happens to one session: what callers ask for, and what becomes of the turn that is
pending. -/
inductive Act where
  | launch (conversation : Value) (scenario : String) (slots language : Value)
  | begin (request : Request)
  | answer
  | settle
  | expire
  | cancel
  | select (node value : Value)
  | delete

namespace Act

def isLaunch : Act → Bool
  | .launch _ _ _ _ => true
  | _ => false

/-- What comes of an act: whether a turn begins, how the turn ends, the session that is shown. -/
inductive Result where
  | begun (result : Except Fault Unit)
  | ended (result : Except Fault Outcome)
  | shown (result : Except Fault Session)
  | deleted (found : Bool)
  | silent

def Result.timeless : Result → Result
  | .begun result => .begun result
  | .ended result => .ended (result.map Outcome.timeless)
  | .shown result => .shown (result.map Session.timeless)
  | .deleted found => .deleted found
  | .silent => .silent

end Act

namespace Manager

open Store

variable {house : House} {world : (call : Call) → call.Answer} {m n : Manager} {k : Nat}
  {act : Act}

/-- What is done with the turn of the session of number `k`, if one is pending. -/
def onTurn (m : Manager) (k : Nat) (f : Pending → Act.Result × Manager) : Act.Result × Manager :=
  match (m.turnsOf (idOf k)).head? with
  | some turn => f turn
  | none => (.silent, m)

/-- The session that a request gives back is shown; one that fails changes nothing. -/
def present (m : Manager) : Except Fault (Session × Manager) → Act.Result × Manager
  | .ok (s, next) => (.shown (.ok s), next)
  | .error fault => (.shown (.error fault), m)

/-- What an act on the session of number `k` comes to in a world that answers each call by itself. -/
def perform (house : House) (world : (call : Call) → call.Answer) (m : Manager) (k : Nat) :
    Act → Act.Result × Manager
  | .launch conversation scenario slots language =>
      let (result, next) := (m.numbered k).launch house conversation scenario slots language
      (.begun (result.map fun _ => ()), next)
  | .begin request =>
      let (result, next) := begin house m (idOf k) request
      (.begun (result.map fun _ => ()), next)
  | .answer => m.onTurn k fun turn => (.silent, m.resume turn world)
  | .settle => m.onTurn k fun turn =>
      match turn.work with
      | .done result =>
          let (outcome, next) := m.settle turn result
          (.ended outcome, next)
      | .ask _ _ => (.silent, m)
  | .expire => m.onTurn k fun turn =>
      let (fault, next) := m.expire house turn
      (.ended (.error fault), next)
  | .cancel => m.present (m.cancel (idOf k))
  | .select node value => m.present (m.select (idOf k) node value)
  | .delete =>
      let (found, next) := m.delete (idOf k)
      (.deleted found, next)

/-- The manager that an act leaves, operation by operation. -/
inductive Performed (house : House) (world : (call : Call) → call.Answer) (m : Manager) (k : Nat) :
    Act → Manager → Prop
  | idle (act : Act) : Performed house world m k act m
  | unknown (conversation : Value) (scenario : String) (slots language : Value) :
      Performed house world m k (.launch conversation scenario slots language) (m.numbered k)
  | unlaunched (conversation : Value) (scenario : String) (slots language spoken : Value) :
      Performed house world m k (.launch conversation scenario slots language)
        ((m.numbered k).create conversation (.text scenario) slots spoken).2
  | launched (conversation : Value) (scenario : String) (slots language spoken : Value) :
      Performed house world m k (.launch conversation scenario slots language)
        (Manager.begin house ((m.numbered k).create conversation (.text scenario) slots spoken).2
          (idOf k) (.bare spoken)).2
  | begun (request : Request) :
      Performed house world m k (.begin request) (Manager.begin house m (idOf k) request).2
  | answered (turn : Pending) (mem : turn ∈ m.turnsOf (idOf k)) :
      Performed house world m k .answer (m.resume turn world)
  | closed (act : Act) (turn : Pending) (mem : turn ∈ m.turnsOf (idOf k)) (c : Close) :
      Performed house world m k act (m.close house turn c).2
  | canceled (s : Session) (next : Manager) (done : m.cancel (idOf k) = .ok (s, next)) :
      Performed house world m k .cancel next
  | selected (node value : Value) (s : Session) (next : Manager)
      (done : m.select (idOf k) node value = .ok (s, next)) :
      Performed house world m k (.select node value) next
  | deleted : Performed house world m k .delete (m.delete (idOf k)).2

theorem onTurn_performed (f : Pending → Act.Result × Manager)
    (hf : ∀ turn ∈ m.turnsOf (idOf k), Performed house world m k act (f turn).2) :
    Performed house world m k act (m.onTurn k f).2 := by
  unfold onTurn
  split
  · exact hf _ (List.mem_of_head? ‹_›)
  · exact .idle act

theorem create_numbered {conversation scenario slots language : Value} {id : String}
    (h : ((m.numbered k).create conversation scenario slots language).1 = .ok id) : id = idOf k := by
  have hfresh : (m.numbered k).store.freshId = idOf k := rfl
  rw [create_made h, hfresh]

theorem performed (house : House) (world : (call : Call) → call.Answer) (m : Manager) (k : Nat)
    (act : Act) : Performed house world m k act (m.perform house world k act).2 := by
  cases act with
  | launch conversation scenario slots language =>
      simp only [perform, launch_eq]
      split
      · exact .unknown _ _ _ _
      · generalize language.orElse (.text house.language) = spoken
        split
        · rename_i id next made
          have hid : id = idOf k := create_numbered (congrArg Prod.fst made)
          have hlaunched : Performed house world m k
            (.launch conversation scenario slots language) _ := .launched _ _ _ language spoken
          rw [made, ← hid] at hlaunched
          exact hlaunched
        · rename_i fault next made
          have hunlaunched : Performed house world m k
            (.launch conversation scenario slots language) _ := .unlaunched _ _ _ language spoken
          rw [made] at hunlaunched
          exact hunlaunched
  | begin request => exact .begun request
  | answer => exact onTurn_performed _ fun turn mem => .answered turn mem
  | settle =>
      refine onTurn_performed _ fun turn mem => ?_
      cases turn.work with
      | done result => exact .closed _ turn mem (.settled result)
      | ask call next => exact .idle _
  | expire => exact onTurn_performed _ fun turn mem => .closed _ turn mem .expired
  | cancel =>
      cases hc : m.cancel (idOf k) with
      | error fault =>
          simp only [perform, hc]
          exact .idle _
      | ok shown =>
          simp only [perform, hc]
          exact .canceled _ _ hc
  | select node value =>
      cases hc : m.select (idOf k) node value with
      | error fault =>
          simp only [perform, hc]
          exact .idle _
      | ok shown =>
          simp only [perform, hc]
          exact .selected node value _ _ hc
  | delete => exact .deleted

theorem Sound.numbered (h : m.Sound) (hk : m.store.given ≤ k) : (m.numbered k).Sound := by
  refine Sound.of_kept h h.orderly hk (Nat.le_refl _) (fun _ ht => ht) ?_ ?_
  · exact fun id s hs => (h.issued id s hs).mono hk
  · exact fun turn ht s hs => ⟨⟨s, hs⟩, h.follows turn ht s hs⟩

theorem Tidy.numbered (h : m.Tidy) (k : Nat) : (m.numbered k).Tidy :=
  ⟨h.given, h.held, h.injective, h.owned, h.alive, h.alone⟩

theorem turn?_eq (h : m.Sound) {turn : Pending} (ht : turn ∈ m.pending) :
    m.turn? turn.id = some turn := by
  cases hfound : m.turn? turn.id with
  | none =>
      have hnone := List.find?_eq_none.1 hfound turn ht
      simp at hnone
  | some other =>
      obtain ⟨hmem, hid⟩ := turn?_mem hfound
      rw [h.distinct other hmem turn ht hid]

theorem onTurn_after (house : House) (f : Pending → Act.Result × Manager)
    (hf : ∀ turn ∈ m.pending, ∃ moves, (f turn).2 = m.after house moves) :
    ∃ moves, (m.onTurn k f).2 = m.after house moves := by
  unfold onTurn
  split
  · exact hf _ (mem_turnsOf.1 (List.mem_of_head? ‹_›)).1
  · exact ⟨[], rfl⟩

/-- An act is a course of moves, and a launch is one of the manager that has the number next. -/
theorem perform_after (h : m.Sound) (house : House) (world : (call : Call) → call.Answer) (k : Nat)
    (act : Act) : ∃ moves, (m.perform house world k act).2
      = (if act.isLaunch then m.numbered k else m).after house moves := by
  cases act with
  | launch conversation scenario slots language =>
      exact ⟨[.launch conversation scenario slots language], rfl⟩
  | begin request => exact ⟨[.begin (idOf k) request], rfl⟩
  | answer =>
      refine onTurn_after house _ fun turn ht => ⟨[.answer turn.id world], ?_⟩
      simp only [after, List.foldl_cons, List.foldl_nil, step, turn?_eq h ht, Option.elim]
  | settle =>
      refine onTurn_after house _ fun turn ht => ?_
      cases hwork : turn.work with
      | ask call next => exact ⟨[], by simp only [after, List.foldl_nil]⟩
      | done result =>
          refine ⟨[.settle turn.id], ?_⟩
          simp only [after, List.foldl_cons, List.foldl_nil, step, turn?_eq h ht, Option.elim, hwork]
  | expire =>
      refine onTurn_after house _ fun turn ht => ⟨[.expire turn.id], ?_⟩
      simp only [after, List.foldl_cons, List.foldl_nil, step, turn?_eq h ht, Option.elim]
  | cancel =>
      refine ⟨[.cancel (idOf k)], ?_⟩
      simp only [perform, Act.isLaunch, Bool.false_eq_true, ↓reduceIte, after, List.foldl_cons,
        List.foldl_nil, step]
      cases m.cancel (idOf k) <;> rfl
  | select node value =>
      refine ⟨[.select (idOf k) node value], ?_⟩
      simp only [perform, Act.isLaunch, Bool.false_eq_true, ↓reduceIte, after, List.foldl_cons,
        List.foldl_nil, step]
      cases m.select (idOf k) node value <;> rfl
  | delete => exact ⟨[.delete (idOf k)], rfl⟩

/-- If the act is a launch then the number is still free. -/
def Allows (m : Manager) (k : Nat) (act : Act) : Prop := act.isLaunch = true → m.store.given ≤ k

namespace Sound

variable (h : m.Sound) (ha : m.Allows k act)
include h ha

theorem perform : (m.perform house world k act).2.Sound := by
  obtain ⟨moves, hmoves⟩ := perform_after h house world k act
  rw [hmoves]
  split
  · exact (h.numbered (ha ‹_›)).after house moves
  · exact h.after house moves

theorem perform_tidy (ht : m.Tidy) : (m.perform house world k act).2.Tidy := by
  have hp := performed house world m k act
  generalize (m.perform house world k act).2 = next at hp
  cases hp with
  | idle => exact ht
  | unknown conversation scenario slots language => exact ht.numbered k
  | unlaunched conversation scenario slots language spoken => exact (ht.numbered k).create _ _ _ _
  | launched conversation scenario slots language spoken =>
      exact ((ht.numbered k).create _ _ _ _).begin ((h.numbered (ha rfl)).create _ _ _ _) house _ _
  | begun request => exact ht.begin h house _ _
  | answered turn mem =>
      rw [h.resume_eq (mem_turnsOf.1 mem).1]
      exact ht.advance _
  | closed _ turn mem c => exact ht.close h house turn c
  | canceled s _ done => exact ht.cancel h.orderly done
  | selected node value s _ done => exact ht.select h.orderly done
  | deleted => exact ht.delete _

/-- Only a launch gives out a number. -/
theorem perform_given {b : Nat} (hb : m.store.given ≤ b) (hk : act.isLaunch = true → k < b) :
    (m.perform house world k act).2.store.given ≤ b := by
  have hp := performed house world m k act
  generalize (m.perform house world k act).2 = next at hp
  cases hp with
  | idle => exact hb
  | unknown conversation scenario slots language => exact Nat.le_of_lt (hk rfl)
  | unlaunched conversation scenario slots language spoken =>
      rw [given_create]
      exact hk rfl
  | launched conversation scenario slots language spoken =>
      rw [given_begin ((h.numbered (ha rfl)).create _ _ _ _), given_create]
      exact hk rfl
  | begun request => exact given_begin h house _ _ ▸ hb
  | answered turn mem =>
      rw [h.resume_eq (mem_turnsOf.1 mem).1]
      exact hb
  | closed _ turn mem c => exact given_close h house turn c ▸ hb
  | canceled s _ done => exact given_cancel h done ▸ hb
  | selected node value s _ done => exact given_select h done ▸ hb
  | deleted => exact Nat.le_trans (Nat.le_of_eq (Store.given_delete m.store _)) hb

theorem perform_view_other {id : String} (hne : idOf k ≠ id) :
    (m.perform house world k act).2.view id = m.view id := by
  have hp := performed house world m k act
  generalize (m.perform house world k act).2 = next at hp
  cases hp with
  | idle => rfl
  | unknown conversation scenario slots language => rfl
  | unlaunched conversation scenario slots language spoken =>
      exact view_create_other (m := m.numbered k) hne _ _ _ _
  | launched conversation scenario slots language spoken =>
      have hcreated := (h.numbered (ha rfl)).create conversation (.text scenario) slots spoken
      exact (view_begin_other hcreated hne house _).trans
        (view_create_other (m := m.numbered k) hne _ _ _ _)
  | begun request => exact view_begin_other h hne house _
  | answered turn mem =>
      obtain ⟨hmem, hid⟩ := mem_turnsOf.1 mem
      exact view_resume_other h hmem (hid ▸ hne) world
  | closed _ turn mem c =>
      obtain ⟨hmem, hid⟩ := mem_turnsOf.1 mem
      exact view_close_other h hmem (hid ▸ hne) house c
  | canceled s _ done => exact view_cancel_other h hne done
  | selected node value s _ done => exact view_select_other h hne done
  | deleted => exact view_delete_other hne

end Sound

section Alike

variable (hm : m.Sound) (hn : n.Sound) (tm : m.Tidy) (tn : n.Tidy)
  (h : m.view (idOf k) = n.view (idOf k))
include hm hn tm tn h

theorem launch_alike (house : House) (am : m.store.given ≤ k) (an : n.store.given ≤ k)
    (conversation : Value) (scenario : String) (slots language : Value) :
    let one := (m.numbered k).launch house conversation scenario slots language
    let two := (n.numbered k).launch house conversation scenario slots language
    one.1.map (fun _ => ()) = two.1.map (fun _ => ()) ∧
      one.2.view (idOf k) = two.2.view (idOf k) := by
  simp only [launch_eq]
  cases house.registry.require scenario with
  | error fault => exact ⟨rfl, h⟩
  | ok known =>
      simp only
      generalize language.orElse (.text house.language) = spoken
      obtain ⟨hmade, hview⟩ := create_alike (m := m.numbered k) (n := n.numbered k) h rfl rfl
        conversation (.text scenario) slots spoken
      have hone := (hm.numbered am).create conversation (.text scenario) slots spoken
      have htwo := (hn.numbered an).create conversation (.text scenario) slots spoken
      have tone := (tm.numbered k).create conversation (.text scenario) slots spoken
      have ttwo := (tn.numbered k).create conversation (.text scenario) slots spoken
      have hid {id : String} (hc : ((m.numbered k).create conversation (.text scenario) slots
        spoken).1 = .ok id) : id = idOf k := create_numbered hc
      generalize (m.numbered k).create conversation (.text scenario) slots spoken = one at *
      generalize (n.numbered k).create conversation (.text scenario) slots spoken = two at *
      obtain ⟨made, one⟩ := one
      obtain ⟨_, two⟩ := two
      subst hmade
      cases made with
      | error fault => exact ⟨rfl, hview⟩
      | ok id =>
          cases hid rfl
          exact begin_alike hone htwo tone ttwo hview house _

omit hm hn tn in
theorem onTurn_alike {f g : Pending → Act.Result × Manager}
    (hf : ∀ turn other, turn.marked.id = idOf k → turn.bare = other.bare →
      m.turnsOf turn.marked.id = [turn] → n.turnsOf turn.marked.id = [other] →
      m.view turn.marked.id = n.view turn.marked.id →
      (f turn).1.timeless = (g other).1.timeless ∧
        (f turn).2.view turn.marked.id = (g other).2.view turn.marked.id) :
    (m.onTurn k f).1.timeless = (n.onTurn k g).1.timeless ∧
      (m.onTurn k f).2.view (idOf k) = (n.onTurn k g).2.view (idOf k) := by
  unfold onTurn
  rcases turns_cases h tm with ⟨hone, htwo⟩ | ⟨turn, other, hone, htwo, hbare⟩
  · rw [hone, htwo]
    exact ⟨rfl, h⟩
  · have hid : turn.marked.id = idOf k := (mem_turnsOf.1 (hone ▸ List.mem_singleton_self _)).2
    rw [hone, htwo, ← hid]
    exact hf turn other hid hbare (hid ▸ hone) (hid ▸ htwo) (hid ▸ h)

omit hm hn tm tn in
theorem present_alike {r q : Except Fault (Session × Manager)}
    (hr : r.map (glance (idOf k)) = q.map (glance (idOf k))) :
    (m.present r).1.timeless = (n.present q).1.timeless ∧
      (m.present r).2.view (idOf k) = (n.present q).2.view (idOf k) := by
  rcases exists_of_map_eq hr with ⟨fault, rfl, rfl⟩ | ⟨⟨s, next⟩, ⟨t, later⟩, rfl, rfl, heq⟩
  · exact ⟨rfl, h⟩
  · obtain ⟨hst, hview⟩ := Prod.mk.inj heq
    exact ⟨congrArg (Act.Result.shown ∘ Except.ok) hst, hview⟩

theorem perform_alike (am : m.Allows k act) (an : n.Allows k act) :
    let one := m.perform house world k act
    let two := n.perform house world k act
    one.1.timeless = two.1.timeless ∧ one.2.view (idOf k) = two.2.view (idOf k) := by
  cases act with
  | launch conversation scenario slots language =>
      obtain ⟨hresult, hview⟩ := launch_alike hm hn tm tn h house (am rfl) (an rfl)
        conversation scenario slots language
      exact ⟨congrArg Act.Result.begun hresult, hview⟩
  | begin request =>
      obtain ⟨hresult, hview⟩ := begin_alike hm hn tm tn h house request
      exact ⟨congrArg Act.Result.begun hresult, hview⟩
  | answer =>
      refine onTurn_alike tm h fun turn other hid ht hone htwo hview => ⟨rfl, ?_⟩
      exact view_resume_alike hm hn hview ht hone htwo world
  | settle =>
      refine onTurn_alike tm h fun turn other hid ht hone htwo hview => ?_
      rw [Pending.eq_of_bare Pending.work (fun _ => rfl) ht]
      cases other.work with
      | ask call next => exact ⟨rfl, hview⟩
      | done result =>
          have houtcome := close_alike hm.orderly hn.orderly hview ht house (.settled result)
          have hview := view_close_alike hm hn hview ht house hone htwo (.settled result)
          exact ⟨congrArg Act.Result.ended houtcome, hview⟩
  | expire =>
      refine onTurn_alike tm h fun turn other hid ht hone htwo hview => ?_
      have houtcome := close_alike hm.orderly hn.orderly hview ht house .expired
      have hview := view_close_alike hm hn hview ht house hone htwo .expired
      exact ⟨congrArg Act.Result.ended houtcome, hview⟩
  | cancel => exact present_alike h (cancel_alike hm.orderly hn.orderly h)
  | select node value => exact present_alike h (select_alike hm.orderly hn.orderly h node value)
  | delete =>
      have hfound := delete_alike hm.orderly hn.orderly h
      refine ⟨congrArg Act.Result.deleted hfound, ?_⟩
      have hone := view_delete m (idOf k)
      rw [h] at hone
      exact hone.trans (view_delete n (idOf k)).symm

end Alike

end Manager

end Dialogue

/-!
Sessions do not interfere: what happens to a session happens as if the others were not there.
-/

namespace Dialogue.Manager

open Turn Store

variable {m n : Manager} {k a : Nat} {act : Act}

/-- The launches of a course stand in the order of their numbers, which is how they are given out. -/
def Numbered (course : List (Nat × Act)) : Prop :=
  course.Pairwise fun x y => x.2.isLaunch = true → y.2.isLaunch = true → x.1 < y.1

instance (course : List (Nat × Act)) : Decidable (Numbered course) :=
  inferInstanceAs (Decidable (course.Pairwise _))

def follow (house : House) (world : (call : Call) → call.Answer) (m : Manager)
    (course : List (Nat × Act)) : Manager :=
  course.foldl (fun m x => (m.perform house world x.1 x.2).2) m

/-- The record of the session of number `k`, apart from times. -/
def shown (m : Manager) (k : Nat) : Except Fault (Option Session) :=
  (m.session? (idOf k)).map (Option.map Session.timeless)

/-- What came of each act on the session of number `a`, and its record after the act. -/
def history (house : House) (world : (call : Call) → call.Answer) (a : Nat) :
    Manager → List (Nat × Act) → List (Act.Result × Except Fault (Option Session))
  | _, [] => []
  | m, (k, act) :: rest =>
      let (result, next) := m.perform house world k act
      if k = a then (result.timeless, next.shown a) :: next.history house world a rest
      else next.history house world a rest

/-- The acts on the session of number `a`. -/
def alone (a : Nat) (course : List (Nat × Act)) : List (Nat × Act) := course.filter (·.1 = a)

/-- A manager that such a course can start from. -/
structure Ready (m : Manager) (course : List (Nat × Act)) : Prop where
  sound : m.Sound
  tidy : m.Tidy
  numbered : Numbered course
  allows : ∀ x ∈ course, m.Allows x.1 x.2

theorem ready_empty {course : List (Nat × Act)} (h : Numbered course) (sink : Sink) (now : Moment) :
    (empty sink now).Ready course :=
  ⟨sound_empty sink now, tidy_empty sink now, h, fun _ _ _ => Nat.zero_le _⟩

namespace Ready

variable {course rest : List (Nat × Act)}

theorem sublist (h : m.Ready course) (hs : rest.Sublist course) : m.Ready rest :=
  ⟨h.sound, h.tidy, h.numbered.sublist hs, fun x hx => h.allows x (hs.subset hx)⟩

theorem perform (h : m.Ready ((k, act) :: rest)) (house : House)
    (world : (call : Call) → call.Answer) : (m.perform house world k act).2.Ready rest := by
  obtain ⟨hfirst, hrest⟩ := List.pairwise_cons.1 h.numbered
  have hallows : m.Allows k act := h.allows _ List.mem_cons_self
  refine ⟨h.sound.perform hallows, h.sound.perform_tidy hallows h.tidy, hrest, ?_⟩
  exact fun x hx hlaunch => h.sound.perform_given hallows
    (h.allows x (List.mem_cons_of_mem _ hx) hlaunch) fun hl => hfirst x hx hl hlaunch

theorem follow (h : m.Ready course) (house : House) (world : (call : Call) → call.Answer) :
    (m.follow house world course).Sound := by
  induction course generalizing m with
  | nil => exact h.sound
  | cons x rest ih => exact ih (h.perform house world)

end Ready

theorem shown_eq (h : m.Sound) (k : Nat) : m.shown k = .ok (m.view (idOf k)).record := by
  rw [shown, session?_eq h.orderly]
  rfl

section Courses

variable {course : List (Nat × Act)}

/-- Two managers that hold the same of the session, one of which may pass over the acts on others. -/
structure Paired (a : Nat) (m n : Manager) (course : List (Nat × Act)) : Prop where
  left : m.Ready course
  right : n.Ready course
  view : m.view (idOf a) = n.view (idOf a)

namespace Paired

theorem own {rest : List (Nat × Act)} (h : Paired a m n ((a, act) :: rest)) (house : House)
    (world : (call : Call) → call.Answer) :
    (m.perform house world a act).1.timeless = (n.perform house world a act).1.timeless ∧
      Paired a (m.perform house world a act).2 (n.perform house world a act).2 rest := by
  obtain ⟨hresult, hview⟩ := perform_alike h.left.sound h.right.sound h.left.tidy h.right.tidy h.view
    (h.left.allows _ List.mem_cons_self) (h.right.allows _ List.mem_cons_self)
  exact ⟨hresult, h.left.perform house world, h.right.perform house world, hview⟩

theorem other {rest : List (Nat × Act)} (h : Paired a m n ((k, act) :: rest)) (hne : k ≠ a)
    (house : House) (world : (call : Call) → call.Answer) :
    Paired a (m.perform house world k act).2 n rest := by
  have hview : (m.perform house world k act).2.view (idOf a) = m.view (idOf a) :=
    h.left.sound.perform_view_other (h.left.allows _ List.mem_cons_self)
      fun heq => hne (idOf_injective heq)
  exact ⟨h.left.perform house world, h.right.sublist (List.sublist_cons_self _ _),
    hview.trans h.view⟩

end Paired

theorem alone_own (a : Nat) (act : Act) (rest : List (Nat × Act)) :
    alone a ((a, act) :: rest) = (a, act) :: alone a rest :=
  List.filter_cons_of_pos (decide_eq_true rfl)

theorem alone_other (hne : k ≠ a) (act : Act) (rest : List (Nat × Act)) :
    alone a ((k, act) :: rest) = alone a rest :=
  List.filter_cons_of_neg (by simpa using hne)

theorem follow_alone (h : Paired a m n course) (house : House)
    (world : (call : Call) → call.Answer) :
    (m.follow house world course).view (idOf a)
      = (n.follow house world (alone a course)).view (idOf a) := by
  induction course generalizing m n with
  | nil => exact h.view
  | cons x rest ih =>
      obtain ⟨k, act⟩ := x
      by_cases heq : k = a
      · subst heq
        rw [alone_own]
        exact ih (h.own house world).2
      · rw [alone_other heq]
        exact ih (h.other heq house world)

theorem history_alone (h : Paired a m n course) (house : House)
    (world : (call : Call) → call.Answer) :
    m.history house world a course = n.history house world a (alone a course) := by
  induction course generalizing m n with
  | nil => rfl
  | cons x rest ih =>
      obtain ⟨k, act⟩ := x
      by_cases heq : k = a
      · subst heq
        obtain ⟨hresult, hnext⟩ := h.own house world
        rw [alone_own]
        simp only [history, ↓reduceIte, hresult, ih hnext, shown_eq hnext.left.sound,
          shown_eq hnext.right.sound, hnext.view]
      · rw [alone_other heq]
        simp only [history, if_neg heq]
        exact ih (h.other heq house world)

end Courses

/-- What comes of the acts on a session, and its record after them and at every other time, is the same
if all acts on other sessions are left out, apart from times. -/
theorem sessions_do_not_interfere {course : List (Nat × Act)} (h : Numbered course) (house : House)
    (world : (call : Call) → call.Answer) (sink : Sink) (now : Moment) (a : Nat) :
    let start := empty sink now
    start.history house world a course = start.history house world a (alone a course) ∧
      ∀ earlier, earlier <+: course →
        (start.follow house world earlier).shown a
          = (start.follow house world (alone a earlier)).shown a := by
  intro start
  have hstart : start.Ready course := ready_empty h sink now
  refine ⟨history_alone ⟨hstart, hstart, rfl⟩ house world, fun earlier hearlier => ?_⟩
  have hready := hstart.sublist hearlier.sublist
  have hapart : start.Ready (alone a earlier) := hready.sublist List.filter_sublist
  rw [shown_eq (hready.follow house world), shown_eq (hapart.follow house world),
    follow_alone ⟨hready, hready, rfl⟩ house world]

/-- Two sessions whose turns interleave. -/
theorem sample_sessions_do_not_interfere :
    let launch := Act.launch (.text "c") "chat" .null .null
    let course := [(0, launch), (1, launch), (1, .answer), (0, .answer),
      (1, .select (.text "reply") (.text "yes")), (0, .settle), (1, .settle), (1, .cancel),
      (0, .delete), (1, .begin (.bare .null))]
    let start := Sample.start
    Numbered course ∧
      (start.history Sample.house Sample.world 1 course
          = start.history Sample.house Sample.world 1 (alone 1 course) ∧
        ∀ earlier, earlier <+: course →
          (start.follow Sample.house Sample.world earlier).shown 1
            = (start.follow Sample.house Sample.world (alone 1 earlier)).shown 1) ∧
      ∃ s, (start.follow Sample.house Sample.world course).session? "s2" = .ok (some s) ∧
        s.status = .canceled := by
  intro launch course start
  have hnumbered : Numbered course := by decide
  obtain ⟨s, hs, hcanceled⟩ : ∃ s, (start.follow Sample.house Sample.world course).session? "s2"
      = .ok (some s) ∧ decide (s.status = .canceled) = true := exists_of_shows (by decide +kernel)
  exact ⟨hnumbered, sessions_do_not_interfere hnumbered Sample.house Sample.world _ _ 1, s, hs,
    of_decide_eq_true hcanceled⟩

end Dialogue.Manager
