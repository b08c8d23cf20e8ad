import BoundedScript.Text.Scan

set_option autoImplicit false

namespace BoundedScript.Text.Scan

variable {α β : Type}

section Steps

@[simp] theorem pure_apply (a : α) (cs : List Char) : (pure a : Scan α) cs = some (a, cs) := rfl

@[simp] theorem failure_apply (cs : List Char) : (failure : Scan α) cs = none := rfl

@[simp] theorem get_apply (cs : List Char) : (get : Scan (List Char)) cs = some (cs, cs) := rfl

@[simp] theorem set_apply (cs ds : List Char) : (set ds : Scan PUnit) cs = some (⟨⟩, ds) := rfl

@[simp] theorem modify_apply (f : List Char → List Char) (cs : List Char) :
    (modify f : Scan PUnit) cs = some (⟨⟩, f cs) := rfl

@[simp] theorem peek_apply (cs : List Char) : peek cs = some (cs.head?, cs) := rfl

@[simp] theorem drop_apply (n : Nat) (cs : List Char) : drop n cs = some ((), cs.drop n) := rfl

@[simp] theorem next_cons (c : Char) (rest : List Char) : next (c :: rest) = some (c, rest) := rfl

@[simp] theorem fuel_apply (cs : List Char) : fuel cs = some (cs.length + 1, cs) := rfl

@[simp] theorem atEnd_apply (cs : List Char) : atEnd cs = some (cs.isEmpty, cs) := rfl

@[simp] theorem takeWhile_apply (p : Char → Bool) (cs : List Char) :
    takeWhile p cs = some (cs.takeWhile p, cs.dropWhile p) := rfl

@[simp] theorem skipWhile_apply (p : Char → Bool) (cs : List Char) :
    skipWhile p cs = some ((), cs.dropWhile p) := rfl

theorem bind_apply (s : Scan α) (f : α → Scan β) (cs : List Char) :
    (s >>= f) cs = match s cs with
      | some (a, rest) => f a rest
      | none => none := by
  show (StateT.bind s f) cs = _
  rw [StateT.bind]
  cases s cs <;> rfl

theorem bind_some {s : Scan α} {a : α} {cs rest : List Char} (read : s cs = some (a, rest)) (f : α → Scan β) :
    (s >>= f) cs = f a rest := by
  rw [bind_apply, read]

theorem bind_none {s : Scan α} {cs : List Char} (refused : s cs = none) (f : α → Scan β) : (s >>= f) cs = none := by
  rw [bind_apply, refused]

theorem map_apply (f : α → β) (s : Scan α) (cs : List Char) :
    (f <$> s) cs = (s cs).map fun read => (f read.1, read.2) := by
  show (StateT.map f s) cs = _
  rw [StateT.map]
  cases s cs <;> rfl

@[simp] theorem expect_cons (c : Char) (rest : List Char) : expect c (c :: rest) = some ((), rest) := by
  simp [expect, bind_apply]

theorem passes_apply (s : String) (cs : List Char) :
    passes s cs = if s.toList.isPrefixOf cs then some (true, cs.drop s.length) else some (false, cs) := by
  rw [passes, bind_apply]
  dsimp only [get_apply]
  split <;> rfl

theorem passes_there (s : String) (rest : List Char) : passes s (s.toList ++ rest) = some (true, rest) := by
  have front : s.toList.isPrefixOf (s.toList ++ rest) := List.isPrefixOf_iff_prefix.mpr (List.prefix_append _ _)
  have left : (s.toList ++ rest).drop s.length = rest := List.drop_left
  rw [passes_apply, if_pos front, left]

theorem passes_other {s : String} {c d : Char} {ds rest : List Char} (text : s.toList = d :: ds) (other : d ≠ c) :
    passes s (c :: rest) = some (false, c :: rest) := by
  have apart : (d == c) = false := beq_false_of_ne other
  simp [passes_apply, text, List.isPrefixOf, apart]

theorem whole_some {s : Scan α} {text : String} {a : α} (read : s text.toList = some (a, [])) :
    whole s text = some a := by
  rw [whole, StateT.run, read]

theorem whole_none {s : Scan α} {text : String} (refused : s text.toList = none) : whole s text = none := by
  rw [whole, StateT.run, refused]

end Steps

section Results

variable {P : α → Prop} {Q : β → Prop} {s : Scan β} {f : β → Scan α}

def Yields (P : α → Prop) (s : Scan α) : Prop :=
  ∀ cs a rest, s cs = some (a, rest) → P a

theorem yields_pure {a : α} (given : P a) : Yields P (pure a) := by
  rintro cs _ _ ⟨⟩
  exact given

theorem yields_failure : Yields P failure := nofun

theorem Yields.bind (first : Yields Q s) (later : ∀ b, Q b → Yields P (f b)) : Yields P (s >>= f) := by
  intro cs a rest read
  rw [bind_apply] at read
  split at read
  next b between step => exact later b (first _ _ _ step) _ _ _ read
  next => cases read

theorem yields_bind (later : ∀ b, Yields P (f b)) : Yields P (s >>= f) :=
  Yields.bind (Q := fun _ => True) (fun _ _ _ _ => trivial) fun b _ => later b

end Results
end BoundedScript.Text.Scan
