import BoundedScript.Json.Record
import BoundedScript.Json.Reader
import BoundedScript.Proofs.Text.Encoding

set_option autoImplicit false

namespace BoundedScript.Json.Reading

open Text (Bytes encoded)

variable {α β : Type}

section Steps

@[simp] theorem pure_apply (a : α) (bs : Bytes) : (pure a : Reading α) bs = .ok (a, bs) := rfl

@[simp] theorem throw_apply (e : ReadError) (bs : Bytes) : (throw e : Reading α) bs = .error e := rfl

@[simp] theorem get_apply (bs : Bytes) : (get : Reading Bytes) bs = .ok (bs, bs) := rfl

@[simp] theorem set_apply (bs cs : Bytes) : (set bs : Reading PUnit) cs = .ok (⟨⟩, bs) := rfl

@[simp] theorem drop_apply (bs : Bytes) : drop bs = .ok ((), bs.tail) := rfl

@[simp] theorem fuel_apply (bs : Bytes) : fuel bs = .ok (bs.length + 1, bs) := rfl

@[simp] theorem peek_apply (bs : Bytes) :
    peek bs = .ok ((bs.dropWhile isBlank).head?, bs.dropWhile isBlank) := rfl

@[simp] theorem next_cons (e : ReadError) (b : UInt8) (tail : Bytes) :
    next e (b :: tail) = .ok (b, tail) := rfl

theorem bind_apply (r : Reading α) (f : α → Reading β) (bs : Bytes) :
    (r >>= f) bs = match r bs with
      | .ok (a, rest) => f a rest
      | .error e => .error e := by
  show (StateT.bind r f) bs = _
  rw [StateT.bind]
  cases r bs <;> rfl

theorem bind_ok {r : Reading α} {a : α} {bs rest : Bytes} (read : r bs = .ok (a, rest))
    (f : α → Reading β) : (r >>= f) bs = f a rest := by
  rw [bind_apply, read]

theorem bind_error {r : Reading α} {e : ReadError} {bs : Bytes} (refused : r bs = .error e)
    (f : α → Reading β) : (r >>= f) bs = .error e := by
  rw [bind_apply, refused]

theorem bind_eq_ok {r : Reading α} {f : α → Reading β} {b : β} {bs rest : Bytes} :
    (r >>= f) bs = .ok (b, rest) ↔
      ∃ a between, r bs = .ok (a, between) ∧ f a between = .ok (b, rest) := by
  rw [bind_apply]
  constructor
  · intro read
    cases first : r bs with
    | error e =>
      rw [first] at read
      cases read
    | ok pair =>
      rw [first] at read
      exact ⟨pair.1, pair.2, rfl, read⟩
  · rintro ⟨a, between, first, second⟩
    rw [first]
    exact second

theorem run_eq_ok {r : Reading α} {bytes : Bytes} {a : α} :
    r.run bytes = .ok a ↔ ∃ rest, r bytes = .ok (a, rest) ∧ rest.dropWhile isBlank = [] := by
  rw [run, bind_apply]
  constructor
  · intro read
    cases first : r bytes with
    | error e =>
      simp only [first] at read
      cases read
    | ok pair =>
      simp only [first] at read
      cases left : pair.2.dropWhile isBlank with
      | nil =>
        simp [finish, bind_apply, left] at read
        exact ⟨pair.2, by rw [← read], left⟩
      | cons b tail =>
        simp [finish, bind_apply, left] at read
  · rintro ⟨rest, read, ended⟩
    simp [read, finish, bind_apply, ended]

end Steps

def Yields (P : α → Prop) (r : Reading α) : Prop :=
  ∀ bs a rest, r bs = .ok (a, rest) → P a

section Yields

variable {P : α → Prop} {Q : β → Prop}

theorem Yields.pure {a : α} (holds : P a) : Yields P (Pure.pure a) := by
  intro bs a' rest read
  obtain ⟨rfl, rfl⟩ := Prod.mk.inj (Except.ok.inj read)
  exact holds

theorem Yields.throw (e : ReadError) : Yields P (MonadExcept.throw e) := by
  intro bs a rest read
  cases read

theorem Yields.bind {r : Reading α} {f : α → Reading β} (first : Yields P r)
    (second : ∀ a, P a → Yields Q (f a)) : Yields Q (r >>= f) := by
  intro bs b rest read
  obtain ⟨a, between, readFirst, readSecond⟩ := bind_eq_ok.mp read
  exact second a (first bs a between readFirst) between b rest readSecond

theorem Yields.behind {r : Reading α} {f : α → Reading β} (second : ∀ a, Yields Q (f a)) :
    Yields Q (r >>= f) :=
  Yields.bind (P := fun _ => True) (fun _ _ _ _ => trivial) fun a _ => second a

theorem Yields.ite {c : Prop} [Decidable c] {r s : Reading α} (yes : Yields P r) (no : Yields P s) :
    Yields P (if c then r else s) := by
  by_cases holds : c
  · rw [if_pos holds]
    exact yes
  · rw [if_neg holds]
    exact no

end Yields

end BoundedScript.Json.Reading
