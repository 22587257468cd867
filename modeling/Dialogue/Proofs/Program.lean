import Dialogue.Program
import Mathlib.Data.List.Forall2
/-!
What holds of every outcome of some work, whatever the world answers, and work told together with
what it hears from the world.
-/
namespace Dialogue

theorem exists_of_bind_ok {ε α β : Type} {x : Except ε α} {f : α → Except ε β} {b : β}
    (h : x >>= f = .ok b) : ∃ a, x = .ok a ∧ f a = .ok b := by
  cases x with
  | error e => cases h
  | ok a => exact ⟨a, rfl, h⟩

theorem forall₂_of_mapM {α β : Type} {f : α → Except Fault β} {as : List α} {bs : List β}
    (h : as.mapM f = .ok bs) : List.Forall₂ (fun a b => f a = .ok b) as bs := by
  induction as generalizing bs with
  | nil =>
      cases h
      exact .nil
  | cons a as ih =>
      rw [List.mapM_cons] at h
      obtain ⟨b, hb, h⟩ := exists_of_bind_ok h
      obtain ⟨bs, hbs, h⟩ := exists_of_bind_ok h
      cases h
      exact .cons hb (ih hbs)

theorem exists_of_forall₂ {α β : Type} {R : α → β → Prop} {as : List α} {bs : List β}
    (h : List.Forall₂ R as bs) {a : α} (ha : a ∈ as) : ∃ b ∈ bs, R a b := by
  induction h with
  | nil => cases ha
  | cons hfirst hrest ih =>
      rcases List.mem_cons.1 ha with rfl | ha
      · exact ⟨_, List.mem_cons_self, hfirst⟩
      · obtain ⟨b, hb, hab⟩ := ih ha
        exact ⟨b, List.mem_cons_of_mem _ hb, hab⟩

namespace Program

variable {α β : Type}

def Always (P : α → Prop) : Program α → Prop
  | .done a => P a
  | .ask _ next => ∀ answer, (next answer).Always P

theorem always_bind {P : β → Prop} {p : Program α} {f : α → Program β} :
    (p.bind f).Always P ↔ p.Always fun a => (f a).Always P := by
  induction p with
  | done a => rfl
  | ask call next ih =>
      simp only [bind, Always]
      exact forall_congr' ih

theorem Always.mono {P Q : α → Prop} {p : Program α} (hp : p.Always P) (h : ∀ a, P a → Q a) :
    p.Always Q := by
  induction p with
  | done a => exact h a hp
  | ask call next ih => exact fun answer => ih answer (hp answer)

theorem always_and {P Q : α → Prop} {p : Program α} (hp : p.Always P) (hq : p.Always Q) :
    p.Always fun a => P a ∧ Q a := by
  induction p with
  | done a => exact ⟨hp, hq⟩
  | ask call next ih => exact fun answer => ih answer (hp answer) (hq answer)

theorem always_of_forall {P : α → Prop} (h : ∀ a, P a) (p : Program α) : p.Always P := by
  induction p with
  | done a => exact h a
  | ask call next ih => exact ih

theorem Always.bind_congr {P : α → Prop} {p : Program α} (hp : p.Always P)
    {f g : α → Program β} (h : ∀ a, P a → f a = g a) : p >>= f = p >>= g := by
  induction p with
  | done a => exact h a hp
  | ask call next ih => exact congrArg (Program.ask call) (funext fun answer => ih answer (hp answer))

theorem Always.run {σ : Type} {P : α → Prop} {p : Program α} (h : p.Always P)
    (world : σ → (c : Call) → c.Answer × σ) (s : σ) : P (p.run world s).1 := by
  induction p generalizing s with
  | done a => exact h
  | ask call next ih => exact ih _ (h _) _

theorem Always.outcome {P : α → Prop} {p : Program α} (h : p.Always P)
    (world : (c : Call) → c.Answer) : P (p.outcome world) := by
  induction p with
  | done a => exact h
  | ask call next ih => exact ih _ (h _)

end Program

namespace Attempt

variable {α β : Type}

/-- `Q` holds of every result; of faults nothing is said. -/
def Ensures (Q : α → Prop) (x : Attempt α) : Prop :=
  x.run.Always fun r => ∀ a, r = .ok a → Q a

theorem of_ok_bind (a : α) (f : α → Attempt β) : Attempt.of (.ok a) >>= f = f a := rfl

theorem ensures_pure {Q : α → Prop} {a : α} (h : Q a) : Ensures Q (pure a : Attempt α) := by
  rintro b ⟨⟩
  exact h

theorem ensures_throw {Q : α → Prop} (fault : Fault) : Ensures Q (throw fault : Attempt α) := by
  rintro b ⟨⟩

theorem ensures_of {Q : α → Prop} {r : Except Fault α} (h : ∀ a, r = .ok a → Q a) :
    Ensures Q (Attempt.of r) := h

theorem ensures_bind {Q : β → Prop} {x : Attempt α} {f : α → Attempt β}
    (h : Ensures (fun a => Ensures Q (f a)) x) : Ensures Q (x >>= f) := by
  refine Program.always_bind.2 (Program.Always.mono h ?_)
  intro r hr
  cases r with
  | ok a => exact hr a rfl
  | error fault => rintro b ⟨⟩

theorem ensures_of_forall {Q : α → Prop} (h : ∀ a, Q a) (x : Attempt α) : Ensures Q x :=
  Program.always_of_forall (fun _ a _ => h a) _

theorem ensures_lift {Q : α → Prop} {p : Program α} (h : p.Always Q) :
    Ensures Q (ExceptT.lift p) := by
  refine Program.always_bind.2 (Program.Always.mono h ?_)
  rintro a ha _ ⟨⟩
  exact ha

/-- Work whose fault is looked at and not passed on. -/
theorem ensures_caught {Q : β → Prop} {x : Attempt α} {f : Except Fault α → Attempt β}
    (hok : Ensures (fun a => Ensures Q (f (.ok a))) x)
    (herror : ∀ fault, Ensures Q (f (.error fault))) : Ensures Q (ExceptT.lift x.run >>= f) := by
  refine ensures_bind (ensures_lift (Program.Always.mono hok fun r hr => ?_))
  cases r with
  | ok a => exact hr a rfl
  | error fault => exact herror fault

theorem Ensures.and {P Q : α → Prop} {x : Attempt α} (hp : Ensures P x) (hq : Ensures Q x) :
    Ensures (fun a => P a ∧ Q a) x :=
  Program.Always.mono (Program.always_and hp hq) fun _ h a ha => ⟨h.1 a ha, h.2 a ha⟩

theorem Ensures.mono {P Q : α → Prop} {x : Attempt α} (hx : Ensures P x) (h : ∀ a, P a → Q a) :
    Ensures Q x :=
  Program.Always.mono hx fun _ hr a ha => h a (hr a ha)

end Attempt

end Dialogue

/-!
Work told together with what it hears from the world.
-/

namespace Dialogue

/-- A call and the answer to it. -/
structure Exchange where
  call : Call
  answer : call.Answer

namespace Program

variable {α β : Type}

/-- The outcome with all exchanges that lead to it, in order. -/
def recorded : Program α → Program (α × List Exchange)
  | .done a => .done (a, [])
  | .ask call next => .ask call fun answer =>
      (next answer).recorded.bind fun (a, heard) => .done (a, ⟨call, answer⟩ :: heard)

theorem always_map {P : β → Prop} {f : α → β} {p : Program α} :
    (f <$> p).Always P ↔ p.Always fun a => P (f a) := always_bind

theorem fst_recorded (p : Program α) : Prod.fst <$> p.recorded = p := by
  induction p with
  | done a => rfl
  | ask call next ih =>
      refine congrArg (Program.ask call) (funext fun answer => ?_)
      exact (bind_assoc _ _ _).trans (ih answer)

theorem Always.recorded {P : α → Prop} {p : Program α} (hp : p.Always P) :
    p.recorded.Always fun (a, _) => P a := by
  rw [← fst_recorded p] at hp
  exact always_map.1 hp

theorem Always.of_recorded {P : α → Prop} {p : Program α}
    (hp : p.recorded.Always fun (a, _) => P a) : p.Always P := by
  rw [← fst_recorded p]
  exact always_map.2 hp

theorem recorded_bind (p : Program α) (f : α → Program β) :
    (p.bind f).recorded = p.recorded.bind fun (a, heard) =>
      (f a).recorded.bind fun (b, more) => .done (b, heard ++ more) := by
  induction p with
  | done a => exact (bind_done _).symm
  | ask call next ih =>
      refine congrArg (Program.ask call) (funext fun answer => ?_)
      simp only [ih, bind_assoc]
      rfl

theorem always_recorded_bind {Q : β × List Exchange → Prop} {p : Program α} {f : α → Program β} :
    (p.bind f).recorded.Always Q ↔ p.recorded.Always fun (a, heard) =>
      (f a).recorded.Always fun (b, more) => Q (b, heard ++ more) := by
  rw [recorded_bind, always_bind]
  simp only [always_bind, Always]

end Program

end Dialogue
