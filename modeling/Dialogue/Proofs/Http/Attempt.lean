import Dialogue.Http.Transport
import Mathlib.Data.List.Basic
/-!
How often a request is sent. An attempt follows the redirects that it meets, and is repeated if the
last server of its way cannot be reached. The servers before that one have been.
-/
namespace Dialogue

section Trying

variable {σ ε α β : Type} {again : ε → Bool} {wait : σ → Nat → σ} {attempt : σ → Except ε α × σ}

/-- The states in which attempts are made that are made once more, and that of the last attempt. -/
def tries (again : ε → Bool) (wait : σ → Nat → σ) (attempt : σ → Except ε α × σ) :
    (more pause : Nat) → σ → List σ × σ
  | 0, _, s => ([], s)
  | more + 1, pause, s =>
      match attempt s with
      | (.ok _, _) => ([], s)
      | (.error e, next) =>
          if again e then
            let (repeated, last) := tries again wait attempt more (2 * pause) (wait next pause)
            (s :: repeated, last)
          else ([], s)

/-- An attempt is the last one or is repeated. -/
theorem tries_cases (again : ε → Bool) (wait : σ → Nat → σ) (attempt : σ → Except ε α × σ)
    (more pause : Nat) (s : σ) :
    ((∀ e, (attempt s).1 = .error e → again e = false) ∧
        retry again wait attempt (more + 1) pause s = attempt s ∧
        tries again wait attempt (more + 1) pause s = ([], s)) ∨
      ∃ e, (attempt s).1 = .error e ∧ again e = true ∧
        retry again wait attempt (more + 1) pause s =
          retry again wait attempt more (2 * pause) (wait (attempt s).2 pause) ∧
        tries again wait attempt (more + 1) pause s =
          let later := tries again wait attempt more (2 * pause) (wait (attempt s).2 pause)
          (s :: later.1, later.2) := by
  rw [retry, tries]
  rcases attempt s with ⟨e | a, next⟩
  · by_cases hagain : again e = true
    · refine .inr ⟨e, rfl, hagain, ?_, ?_⟩ <;> simp only [hagain, ↓reduceIte]
    · refine .inl ⟨?_, ?_, ?_⟩
      · rintro _ ⟨⟩
        exact Bool.not_eq_true _ ▸ hagain
      · exact if_neg hagain
      · exact if_neg hagain
  · exact .inl ⟨nofun, rfl, rfl⟩

theorem retry_eq (more pause : Nat) (s : σ) :
    retry again wait attempt more pause s =
      attempt (tries again wait attempt more pause s).2 := by
  induction more generalizing pause s with
  | zero => rfl
  | succ more ih =>
      rcases tries_cases again wait attempt more pause s with
        ⟨-, hretry, htries⟩ | ⟨e, -, -, hretry, htries⟩
      · rw [hretry, htries]
      · rw [hretry, htries, ih]

theorem length_tries_le (more pause : Nat) (s : σ) :
    (tries again wait attempt more pause s).1.length ≤ more := by
  induction more generalizing pause s with
  | zero => exact Nat.le_refl 0
  | succ more ih =>
      rcases tries_cases again wait attempt more pause s with
        ⟨-, -, htries⟩ | ⟨e, -, -, -, htries⟩
      · rw [htries]
        exact Nat.zero_le _
      · rw [htries]
        exact Nat.succ_le_succ (ih _ _)

/-- Only failures that call for it lead to another attempt. -/
theorem again_of_mem_tries {more pause : Nat} {s t : σ}
    (h : t ∈ (tries again wait attempt more pause s).1) :
    ∃ e, (attempt t).1 = .error e ∧ again e = true := by
  induction more generalizing pause s with
  | zero => cases h
  | succ more ih =>
      rcases tries_cases again wait attempt more pause s with
        ⟨-, -, htries⟩ | ⟨e, he, hagain, -, htries⟩
      · rw [htries] at h
        cases h
      · rw [htries] at h
        rcases List.mem_cons.1 h with rfl | h
        · exact ⟨e, he, hagain⟩
        · exact ih h

/-- A failure that calls for another attempt is the last one only if all attempts have been made. -/
theorem length_tries_of_again {more pause : Nat} {s : σ} {e : ε}
    (h : (attempt (tries again wait attempt more pause s).2).1 = .error e)
    (hagain : again e = true) : (tries again wait attempt more pause s).1.length = more := by
  induction more generalizing pause s with
  | zero => rfl
  | succ more ih =>
      rcases tries_cases again wait attempt more pause s with
        ⟨hnone, -, htries⟩ | ⟨e, -, -, -, htries⟩
      · rw [htries] at h
        cases hagain.symm.trans (hnone e h)
      · rw [htries] at h ⊢
        exact congrArg (· + 1) (ih h)

/-- What is noted in the state is what the attempts note, one after the other. -/
theorem noted_retry {noted notes : σ → List β} (hwait : ∀ s pause, noted (wait s pause) = noted s)
    (hattempt : ∀ s, noted (attempt s).2 = noted s ++ notes s) (more pause : Nat) (s : σ) :
    noted (retry again wait attempt more pause s).2 =
      noted s ++ ((tries again wait attempt more pause s).1 ++
        [(tries again wait attempt more pause s).2]).flatMap notes := by
  induction more generalizing pause s with
  | zero => simp [retry, tries, hattempt]
  | succ more ih =>
      rcases tries_cases again wait attempt more pause s with
        ⟨-, hretry, htries⟩ | ⟨e, -, -, hretry, htries⟩
      · simp [hretry, htries, hattempt]
      · simp [hretry, htries, hattempt, ih, hwait]

end Trying

namespace Http

/-- A request that is put to a server, and what comes of it. -/
structure Leg where
  request : Outgoing
  answer : Except Failure Reply

/-- It is not certain that the server has not seen the request. -/
def Leg.MayHaveReached (leg : Leg) : Prop := ∀ reason, leg.answer ≠ .error (.unreachable reason)

/-- The request that an answer redirects to, if it does. -/
def Outgoing.next? (request : Outgoing) (reply : Reply) : Option Outgoing :=
  (reply.target?.bind fun target => Address.parse? target.toList).map fun address =>
    request.redirected reply.response.status address

/-- The requests that an attempt puts one after the other, from `request` on. -/
def legsFrom : (more : Nat) → Outgoing → Server → List Leg
  | more, request, server =>
      match exchange request server with
      | (.error failure, _) => [⟨request, .error failure⟩]
      | (.ok reply, next) =>
          ⟨request, .ok reply⟩ ::
            match request.next? reply, more with
            | some further, more + 1 => legsFrom more further next
            | _, _ => []

/-- A request that cannot be sent is put to no server. -/
def legs (request : Request) (server : Server) : List Leg :=
  match Outgoing.ofRequest request with
  | .ok outgoing => legsFrom maxRedirects outgoing server
  | .error _ => []

section Following

variable {more : Nat} {request : Outgoing} {server : Server}

theorem asked_exchange (request : Outgoing) (server : Server) :
    (exchange request server).2.asked = server.asked ++ [request] := by
  have hask : (server.ask request).2.asked = server.asked ++ [request] := by
    unfold Peer.ask
    split <;> rfl
  unfold exchange
  split
  · rename_i heq
    rw [heq] at hask
    split <;> exact hask
  · exact hask

/-- An attempt ends with what is answered to a request, or goes on where the answer redirects to. -/
theorem sendFollowing_cases (more : Nat) (request : Outgoing) (server : Server) :
    (legsFrom more request server = [⟨request, (exchange request server).1⟩] ∧
        (sendFollowing more request server).2 = (exchange request server).2 ∧
        ∀ reason, (sendFollowing more request server).1 = .error (.unreachable reason) →
          (exchange request server).1 = .error (.unreachable reason)) ∨
      ∃ fewer reply further, more = fewer + 1 ∧ (exchange request server).1 = .ok reply ∧
        sendFollowing more request server =
          sendFollowing fewer further (exchange request server).2 ∧
        legsFrom more request server =
          ⟨request, .ok reply⟩ :: legsFrom fewer further (exchange request server).2 := by
  rw [legsFrom, sendFollowing]
  rcases exchange request server with ⟨failure | reply, next⟩
  · exact .inl ⟨rfl, rfl, fun reason h => by simpa using h⟩
  · cases htarget : reply.target? with
    | none =>
        have hnext : request.next? reply = none := by
          rw [Outgoing.next?, htarget]
          rfl
        refine .inl ⟨?_, ?_, ?_⟩ <;> simp [htarget, hnext]
    | some target =>
        cases haddress : Address.parse? target.toList with
        | none =>
            have hnext : request.next? reply = none := by
              rw [Outgoing.next?, htarget, Option.bind_some, haddress]
              rfl
            refine .inl ⟨?_, ?_, ?_⟩ <;> simp [htarget, haddress, hnext]
        | some address =>
            have hnext : request.next? reply =
                some (request.redirected reply.response.status address) := by
              rw [Outgoing.next?, htarget, Option.bind_some, haddress]
              rfl
            cases more with
            | zero => refine .inl ⟨?_, ?_, ?_⟩ <;> simp [htarget, haddress, hnext]
            | succ fewer =>
                refine .inr ⟨fewer, reply, request.redirected reply.response.status address, rfl,
                  rfl, ?_, ?_⟩ <;> simp [htarget, haddress, hnext]

theorem asked_sendFollowing (more : Nat) (request : Outgoing) (server : Server) :
    (sendFollowing more request server).2.asked =
      server.asked ++ (legsFrom more request server).map Leg.request := by
  induction more generalizing request server with
  | zero =>
      rcases sendFollowing_cases 0 request server with ⟨hlegs, hnext, -⟩ | ⟨_, _, _, hmore, -⟩
      · rw [hnext, asked_exchange, hlegs, List.map_singleton]
      · cases hmore
  | succ more ih =>
      rcases sendFollowing_cases (more + 1) request server with
        ⟨hlegs, hnext, -⟩ | ⟨_, reply, further, hmore, -, hsend, hlegs⟩
      · rw [hnext, asked_exchange, hlegs, List.map_singleton]
      · cases hmore
        rw [hsend, ih, asked_exchange, hlegs]
        simp

/-- If a server cannot be reached in the end, then only the last one was not. -/
theorem legsFrom_of_unreachable {reason : String}
    (h : (sendFollowing more request server).1 = .error (.unreachable reason)) :
    ∃ front last, legsFrom more request server = front ++ [last] ∧
      last.answer = .error (.unreachable reason) ∧ ∀ leg ∈ front, leg.MayHaveReached := by
  induction more generalizing request server with
  | zero =>
      rcases sendFollowing_cases 0 request server with ⟨hlegs, -, hlost⟩ | ⟨_, _, _, hmore, -⟩
      · exact ⟨[], _, hlegs, hlost reason h, nofun⟩
      · cases hmore
  | succ more ih =>
      rcases sendFollowing_cases (more + 1) request server with
        ⟨hlegs, -, hlost⟩ | ⟨_, reply, further, hmore, -, hsend, hlegs⟩
      · exact ⟨[], _, hlegs, hlost reason h, nofun⟩
      · cases hmore
        rw [hsend] at h
        obtain ⟨front, last, hfront, hlast, hreached⟩ := ih h
        refine ⟨⟨request, .ok reply⟩ :: front, last, by rw [hlegs, hfront]; rfl, hlast, ?_⟩
        intro leg hleg
        rcases List.mem_cons.1 hleg with rfl | hleg
        · nofun
        · exact hreached leg hleg

end Following

section Sending

variable {request : Request} {server : Server}

theorem asked_attempt (request : Request) (server : Server) :
    (attempt request server).2.asked = server.asked ++ (legs request server).map Leg.request := by
  unfold attempt legs
  cases Outgoing.ofRequest request with
  | ok outgoing => exact asked_sendFollowing maxRedirects outgoing server
  | error cause => exact (List.append_nil _).symm

theorem legs_of_unreachable {reason : String}
    (h : (attempt request server).1 = .error (.unreachable reason)) :
    ∃ front last, legs request server = front ++ [last] ∧
      last.answer = .error (.unreachable reason) ∧ ∀ leg ∈ front, leg.MayHaveReached := by
  unfold attempt at h
  unfold legs
  cases hsent : Outgoing.ofRequest request with
  | ok outgoing =>
      rw [hsent] at h
      exact legsFrom_of_unreachable h
  | error cause =>
      rw [hsent] at h
      cases h

theorem asked_retry (more pause : Nat) (request : Request) (server : Server) :
    (retry Failure.isUnreachable Peer.wait (attempt request) more pause server).2.asked =
      let made := tries Failure.isUnreachable Peer.wait (attempt request) more pause server
      server.asked ++
        (made.1 ++ [made.2]).flatMap fun s => (legs request s).map Leg.request :=
  have hwait (s : Server) (milliseconds : Nat) : (s.wait milliseconds).asked = s.asked := rfl
  noted_retry hwait (asked_attempt request) more pause server

/-- The servers as they are before the attempts that are made once more, and before the last. -/
def attempts (request : Request) (server : Server) : List Server × Server :=
  tries Failure.isUnreachable Peer.wait (attempt request) 2 1000 server

/-- The attempt has been redirected. -/
def IsRedirected (request : Request) (server : Server) : Prop := 1 < (legs request server).length

/-- The request is put to its server once more although the server may have seen it. -/
def RepeatsReached (request : Request) (server : Server) : Prop :=
  ∃ s ∈ (attempts request server).1, ∃ leg ∈ (legs request s).head?, leg.MayHaveReached

theorem mem_attempts {reason : String}
    (h : (attempt request server).1 = .error (.unreachable reason)) :
    server ∈ (attempts request server).1 := by
  rcases tries_cases Failure.isUnreachable Peer.wait (attempt request) 1 1000 server with
    ⟨hnone, -, -⟩ | ⟨_, -, -, -, htries⟩
  · cases hnone _ h
  · rw [attempts, htries]
    exact .head _

theorem unreachable_of_mem_attempts {s : Server} (h : s ∈ (attempts request server).1) :
    ∃ reason, (attempt request s).1 = .error (.unreachable reason) := by
  obtain ⟨failure, hfailure, hagain⟩ := again_of_mem_tries h
  cases failure with
  | unreachable reason => exact ⟨reason, hfailure⟩
  | broken | unsendable | noServer | badRedirect | endlessRedirects => cases hagain

/-- A request that is repeated has been seen by its server exactly if it has been redirected: what
could not be reached then is another server. -/
theorem reached_iff_redirected {s : Server} (h : s ∈ (attempts request server).1) :
    (∃ leg ∈ (legs request s).head?, leg.MayHaveReached) ↔ IsRedirected request s := by
  obtain ⟨reason, hreason⟩ := unreachable_of_mem_attempts h
  obtain ⟨front, last, hlegs, hlast, hreached⟩ := legs_of_unreachable hreason
  rw [IsRedirected, hlegs]
  cases front with
  | nil =>
      refine iff_of_false ?_ (by simp)
      rintro ⟨leg, hleg, hleg_reached⟩
      cases hleg
      exact hleg_reached reason hlast
  | cons leg front => exact iff_of_true ⟨leg, rfl, hreached leg (.head front)⟩ (by simp)

/-- A request is attempted three times at most, and once more only if some server could not be
reached; the last attempt decides what comes of it. A request that its server may have seen is
repeated exactly if an attempt has been redirected before it failed. -/
theorem reached_request_repeated_iff (request : Request) (server : Server) :
    (attempts request server).1.length ≤ 2 ∧
      (∀ s ∈ (attempts request server).1,
        ∃ reason, (attempt request s).1 = .error (.unreachable reason)) ∧
      (∀ reason, (attempt request (attempts request server).2).1 = .error (.unreachable reason) →
        (attempts request server).1.length = 2) ∧
      (send request server).1 = (attempt request (attempts request server).2).1.mapError
        (fun failure => .transport failure.message) ∧
      (send request server).2.asked = server.asked ++
        ((attempts request server).1 ++ [(attempts request server).2]).flatMap
          (fun s => (legs request s).map Leg.request) ∧
      (RepeatsReached request server ↔
        ∃ s ∈ (attempts request server).1, IsRedirected request s) := by
  have hretry : thrice Failure.isUnreachable Peer.wait (attempt request) server =
      attempt request (attempts request server).2 := retry_eq 2 1000 server
  refine ⟨length_tries_le 2 1000 server, fun s => unreachable_of_mem_attempts,
    fun reason h => length_tries_of_again h rfl, ?_, ?_, ?_⟩
  · rw [send, hretry]
  · exact asked_retry 2 1000 request server
  · exact exists_congr fun s => and_congr_right reached_iff_redirected

end Sending

namespace Sample

def order : Request := ⟨"POST", "https://api.test/orders", [], .text "tea"⟩

/-- A shop that takes orders and sends its customers on to a page that is down. -/
def shop : Server := .ofScript
  [.ok ⟨⟨303, ""⟩, some "https://down.test/done"⟩, .error (.unreachable "refused"),
    .ok ⟨⟨201, "ordered"⟩, none⟩] (.ok ⟨⟨200, ""⟩, none⟩)

end Sample

open Sample in
/-- The shop gets the order twice. -/
theorem order_placed_twice :
    (send order shop).2.asked.map (fun o => (o.method, String.ofList o.address.print, o.body)) =
        [("POST", "https://api.test/orders", "tea"), ("GET", "https://down.test/done", ""),
          ("POST", "https://api.test/orders", "tea")] ∧
      RepeatsReached order shop := by
  have hdown : (attempt order shop).1 = .error (.unreachable "refused") := by rfl
  have hshop := mem_attempts hdown
  have hredirected : IsRedirected order shop := by
    unfold IsRedirected
    decide +kernel
  exact ⟨by decide +kernel, shop, hshop, (reached_iff_redirected hshop).2 hredirected⟩

end Http

end Dialogue
