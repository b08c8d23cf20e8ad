import BoundedScript.Proofs.Script.Furnishing

set_option autoImplicit false

namespace BoundedScript.Script

def lenders : List Addr :=
  [Intrinsic.objectPrototype.addr, Intrinsic.arrayPrototype.addr]

/-- An object that neither has a say in how its heirs are written nor passes on who has. -/
structure Mute (o : Obj) : Prop where
  own : o.props.get? toJsonKey = none
  parent : ∀ b, o.parent = some b → b = Intrinsic.objectPrototype.addr

structure Quiet (realm : Realm) : Prop where
  idle : realm.callDepth = 0
  room : Intrinsic.count ≤ realm.heap.size
  mute : ∀ a ∈ lenders, ∀ o, realm.heap[a]? = some o → Mute o

theorem lender_lt {a : Addr} (lender : a ∈ lenders) : a < Intrinsic.count := by
  revert a
  decide

theorem Quiet.alloc {s : Realm} (quiet : Quiet s) (o : Obj) : Quiet { s with heap := s.heap.push o } := by
  refine ⟨quiet.idle, ?_, ?_⟩
  · rw [Array.size_push]
    exact Nat.le_succ_of_le quiet.room
  · intro a lender p found
    have old : a < s.heap.size := Nat.lt_of_lt_of_le (lender_lt lender) quiet.room
    rw [Array.getElem?_push, if_neg (Nat.ne_of_lt old)] at found
    exact quiet.mute a lender p found

theorem Decent.mute {heap : Array Obj} {i : Intrinsic} {o : Obj} (decent : Decent heap i.addr o)
    (inside : i ∈ watched) (absent : demand i.addr (.name "toJSON") = .absent) : Mute o where
  own := by
    rw [Option.eq_none_iff_forall_ne_some]
    intro p found
    have met := decent.held (.name "toJSON") p (by rwa [Label.key_word (by decide)])
    rwa [absent] at met
  parent := decent.parent i inside rfl

theorem Furnished.quiet {realm : Realm} (furnished : Furnished realm) : Quiet realm where
  idle := furnished.idle
  room := furnished.room
  mute a lender o there := by
    have decent := furnished.decent a o there
    rcases List.mem_cons.mp lender with rfl | last
    · exact decent.mute (by simp [watched]) (by decide)
    · obtain rfl := List.mem_singleton.mp last
      exact decent.mute (by simp [watched]) (by decide)

theorem World.fresh_quiet : Quiet World.fresh :=
  World.fresh_furnished.quiet

end BoundedScript.Script
