import Mathlib
import Paymaster.Rpc.Method

/-!
# Running actions

Every action of the client is a run of small steps on an exchange.  This file takes a run apart
(`on_bind_eq_ok_iff`) and says what a run leaves behind, whether it succeeds or fails.

`Advances s s' ids sent served` says that from `s` to `s'` the client took `ids` numbers, sent the
requests `sent` and used up the replies `served`, in order, and that nothing else of the connection
changed but the answers to the challenge.  It composes along a sequence (`Advances.trans`), and an
action that does none of these is `Quiet`.
-/

namespace Paymaster.Rpc

/-! ## Running an action -/

lemma map_eq_ok_iff {ε α β : Type} {f : α → β} {x : Except ε α} {b : β} :
    x.map f = .ok b ↔ ∃ a, x = .ok a ∧ f a = b := by
  cases x <;> simp [Except.map]

lemma bind_eq_ok_iff {ε α β : Type} {x : Except ε α} {f : α → Except ε β} {b : β} :
    (x >>= f) = .ok b ↔ ∃ a, x = .ok a ∧ f a = .ok b := by
  cases x with
  | ok a =>
      constructor
      · intro h
        exact ⟨a, rfl, h⟩
      · rintro ⟨_, ⟨⟩, h⟩
        exact h
  | error e =>
      constructor
      · intro h
        cases h
      · rintro ⟨_, ⟨⟩, _⟩

lemma pure_eq_ok_iff {ε α : Type} {a b : α} : (pure a : Except ε α) = .ok b ↔ a = b :=
  ⟨Except.ok.inj, congrArg Except.ok⟩

lemma toOption_eq_some_iff {ε α : Type} {r : Except ε α} {a : α} :
    r.toOption = some a ↔ r = .ok a := by
  cases r <;> simp [Except.toOption]

namespace Action

/-- Runs an action on an exchange. -/
def on {α : Type} (x : Action α) (s : Exchange) : Except Error α × Exchange :=
  x.run.run s

variable {α β : Type}

lemma on_pure (a : α) (s : Exchange) : (pure a : Action α).on s = (.ok a, s) := rfl

lemma on_get (s : Exchange) : (get : Action Exchange).on s = (.ok s, s) := rfl

lemma on_ofExcept (r : Except Error α) (s : Exchange) : (ofExcept r : Action α).on s = (r, s) := by
  cases r <;> rfl

lemma ofExcept_bind (r : Except Error α) (f : α → Except Error β) :
    (ofExcept (r >>= f) : Action β) = (do
      let a ← ofExcept r
      ofExcept (f a)) := by
  cases r <;> rfl

lemma on_bind (x : Action α) (f : α → Action β) (s : Exchange) :
    (x >>= f).on s = match x.on s with
      | (.ok a, s') => (f a).on s'
      | (.error e, s') => (.error e, s') := by
  rw [on, on, ExceptT.run_bind, StateT.run_bind]
  generalize (x.run.run s : Except Error α × Exchange) = out
  obtain ⟨r, s'⟩ := out
  cases r <;> rfl

/-- **A sequence succeeds** when its first part does and the rest does from there. -/
lemma on_bind_eq_ok_iff {x : Action α} {f : α → Action β} {s s' : Exchange} {b : β} :
    (x >>= f).on s = (.ok b, s') ↔ ∃ a t, x.on s = (.ok a, t) ∧ (f a).on t = (.ok b, s') := by
  rw [on_bind]
  constructor
  · intro h
    cases hx : x.on s with
    | mk r t =>
        cases r with
        | ok a => exact ⟨a, t, rfl, by simpa only [hx] using h⟩
        | error e => simp [hx] at h
  · rintro ⟨a, t, hx, hf⟩
    simp only [hx, hf]

lemma on_ofExcept_eq_ok_iff {r : Except Error α} {s s' : Exchange} {a : α} :
    (ofExcept r : Action α).on s = (.ok a, s') ↔ r = .ok a ∧ s' = s := by
  rw [on_ofExcept, Prod.mk.injEq, eq_comm (a := s)]

lemma on_pure_eq_ok_iff {s s' : Exchange} {a b : α} :
    (pure a : Action α).on s = (.ok b, s') ↔ a = b ∧ s' = s := by
  rw [on_pure, Prod.mk.injEq, Except.ok.injEq, eq_comm (a := s)]

lemma exists_of_isOk (x : Action α) (s : Exchange) (h : (x.on s).1.isOk = true) :
    ∃ a s', x.on s = (.ok a, s') := by
  cases hx : x.on s with
  | mk r s' =>
      rw [hx] at h
      cases r with
      | ok a => exact ⟨a, s', rfl⟩
      | error e => cases h

end Action

open Paymaster.Rpc.Action

/-! ## What changes between two exchanges -/

/-- From one exchange to another the client took some numbers, sent some requests and used up some
replies, and left the rest of the connection as it was, the answers to the challenge apart. -/
structure Advances (s s' : Exchange) (ids : ℕ) (sent : List Request)
    (served : List Response) : Prop where
  requests : s'.trace.requests = s.trace.requests ++ sent
  replies : s.replies = served ++ s'.replies
  nextId : s'.connection.nextId = s.connection.nextId + ids
  settings : s'.connection.settings = s.connection.settings
  isOwn : s'.connection.isOwn = s.connection.isOwn
  isClosed : s'.connection.isClosed = s.connection.isClosed
  clock : s'.connection.clock = s.connection.clock

lemma Advances.refl (s : Exchange) : Advances s s 0 [] [] :=
  ⟨(List.append_nil _).symm, rfl, rfl, rfl, rfl, rfl, rfl⟩

/-- **Advances compose.** -/
lemma Advances.trans {s t u : Exchange} {m n : ℕ} {sent more : List Request}
    {served others : List Response} (h : Advances s t m sent served)
    (h' : Advances t u n more others) : Advances s u (m + n) (sent ++ more) (served ++ others) where
  requests := by rw [h'.requests, h.requests, List.append_assoc]
  replies := by rw [h.replies, h'.replies, List.append_assoc]
  nextId := by rw [h'.nextId, h.nextId, Nat.add_assoc]
  settings := h'.settings.trans h.settings
  isOwn := h'.isOwn.trans h.isOwn
  isClosed := h'.isClosed.trans h.isClosed
  clock := h'.clock.trans h.clock

/-- An action takes no number, sends nothing and uses up no reply. -/
def Quiet {α : Type} (x : Action α) : Prop :=
  ∀ s, Advances s (x.on s).2 0 [] []

/-- What is quiet and comes last changes nothing. -/
lemma Advances.bind_quiet {α β : Type} {x : Action α} {f : α → Action β} {s t : Exchange} {ids : ℕ}
    {sent : List Request} {served : List Response} (hx : Advances s (x.on t).2 ids sent served)
    (hf : ∀ a, Quiet (f a)) : Advances s ((x >>= f).on t).2 ids sent served := by
  rw [on_bind]
  cases h : x.on t with
  | mk r u =>
      rw [h] at hx
      cases r with
      | ok a => simpa only [Nat.add_zero, List.append_nil] using hx.trans (hf a u)
      | error e => exact hx

namespace Quiet

variable {α β : Type}

lemma advances {x : Action α} {r : Except Error α} {s s' : Exchange} (hx : Quiet x)
    (h : x.on s = (r, s')) : Advances s s' 0 [] [] := by
  have hquiet := hx s
  rwa [h] at hquiet

lemma pure (a : α) : Quiet (pure a : Action α) :=
  fun s => Advances.refl s

lemma throw (e : Error) : Quiet (throw e : Action α) :=
  fun s => Advances.refl s

lemma get : Quiet (get : Action Exchange) :=
  fun s => Advances.refl s

lemma ofExcept (r : Except Error α) : Quiet (ofExcept r : Action α) := by
  intro s
  rw [on_ofExcept]
  exact Advances.refl s

lemma note (n : Note) : Quiet (note n) :=
  fun _ => ⟨(List.append_nil _).symm, rfl, rfl, rfl, rfl, rfl, rfl⟩

lemma warn (text : String) : Quiet (warn text) :=
  fun _ => ⟨(List.append_nil _).symm, rfl, rfl, rfl, rfl, rfl, rfl⟩

lemma bind {x : Action α} {f : α → Action β} (hx : Quiet x) (hf : ∀ a, Quiet (f a)) :
    Quiet (x >>= f) :=
  fun s => (hx s).bind_quiet hf

end Quiet

end Paymaster.Rpc
