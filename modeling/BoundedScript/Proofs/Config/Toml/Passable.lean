import BoundedScript.Config.Toml.Reader
import BoundedScript.Proofs.Text.Scanning

set_option autoImplicit false

namespace BoundedScript

open Text Text.Scan
open Document (passable passableItems passableFields)

theorem Document.passableItems_iff (ds : List Document) : passableItems ds ↔ ∀ d ∈ ds, d.passable := by
  induction ds with
  | nil => simp [passableItems]
  | cons d ds ih => simp [passableItems, ih]

theorem Document.passableFields_iff (entries : List (String × Document)) :
    passableFields entries ↔ ∀ e ∈ entries, e.2.passable := by
  induction entries with
  | nil => simp [passableFields]
  | cons e entries ih => simp [passableFields, ih]

namespace Toml

def ReadsPassable (s : Scan Document) : Prop :=
  Yields (fun d => d.passable) s

section Numbers

variable {isDigit : Char → Bool} {negative : Bool}

theorem whole_passable (n : Int) : ReadsPassable (whole n) := by
  unfold whole
  split
  · exact yields_pure rfl
  · exact yields_failure

theorem real_passable (n : Nat) (e : Int) : ReadsPassable (real negative n e) := by
  unfold real
  dsimp only
  split
  · exact yields_pure rfl
  · split
    · exact yields_failure
    · exact yields_pure rfl

theorem afterWhole_passable (n : Nat) : ReadsPassable (afterWhole negative n) := by
  unfold afterWhole
  refine yields_bind fun c => ?_
  split
  · refine yields_bind fun _ => yields_bind fun (f, places) => yields_bind fun mark => ?_
    split
    · exact yields_bind fun e => real_passable _ _
    · exact real_passable _ _
  · split
    · exact yields_bind fun e => real_passable _ _
    · exact whole_passable _
  · exact whole_passable _

theorem decimal_passable : ReadsPassable (decimal negative) := by
  unfold decimal
  refine yields_bind fun c => ?_
  split
  · exact yields_bind fun _ => afterWhole_passable _
  · exact yields_bind fun _ => afterWhole_passable _

theorem unsigned_passable (base : Nat) : ReadsPassable (unsigned isDigit base) :=
  yields_bind fun _ => whole_passable _

theorem special_passable : ReadsPassable (special negative) := by
  unfold special
  refine yields_bind fun infinite => ?_
  split
  · exact yields_pure rfl
  refine yields_bind fun none => ?_
  split
  · exact yields_pure rfl
  · exact decimal_passable

theorem number_passable : ReadsPassable number := by
  unfold number
  refine yields_bind fun hex => ?_
  split
  · exact unsigned_passable _
  refine yields_bind fun octal => ?_
  split
  · exact unsigned_passable _
  refine yields_bind fun binary => ?_
  split
  · exact unsigned_passable _
  refine yields_bind fun minus => ?_
  split
  · exact special_passable
  · exact yields_bind fun _ => special_passable

theorem dateAndTime_passable : ReadsPassable dateAndTime := by
  unfold dateAndTime
  refine yields_bind fun _ => yields_bind fun cs => ?_
  split
  · exact yields_bind fun _ => yields_bind fun _ => yields_bind fun _ => yields_pure rfl
  · exact yields_pure rfl

theorem numberOrDate_passable : ReadsPassable numberOrDate := by
  unfold numberOrDate
  refine yields_bind fun cs => ?_
  split
  · exact dateAndTime_passable
  split
  · exact yields_bind fun _ => yields_pure rfl
  · exact number_passable

end Numbers

section Tables

variable {fields inner : Fields} {name : String} {f : Origin → Fields → Option Fields}

def Clean (fields : Fields) : Prop :=
  ∀ e ∈ fields, e.2.toDocument.passable

theorem toEntries_eq (fields : Fields) : toEntries fields = fields.map fun e => (e.1, e.2.toDocument) := by
  induction fields with
  | nil => rfl
  | cons e fields ih => rw [toEntries, ih, List.map_cons]

theorem toItems_eq (items : List Fields) : toItems items = items.map fun fields => .table (toEntries fields) := by
  induction items with
  | nil => rfl
  | cons fields items ih => rw [toItems, ih, List.map_cons]

theorem passable_table : (Document.table (toEntries fields)).passable ↔ Clean fields := by
  rw [Document.passable, Document.passableFields_iff, toEntries_eq, List.forall_mem_map, Clean]

theorem passable_tables (items : List Fields) : (Node.tables items).toDocument.passable ↔ ∀ fields ∈ items, Clean fields := by
  simp only [Node.toDocument, Document.passable, Document.passableItems_iff, toItems_eq, List.forall_mem_map]
  exact forall₂_congr fun fields _ => passable_table

theorem passable_node (origin : Origin) : (Node.table origin fields).toDocument.passable ↔ Clean fields := by
  rw [Node.toDocument, passable_table]

theorem Clean.nil : Clean [] := nofun

theorem Clean.append (clean : Clean fields) {n : Node} (passable : n.toDocument.passable) :
    Clean (fields ++ [(name, n)]) := by
  intro e inside
  rcases List.mem_append.mp inside with inside | inside
  · exact clean e inside
  · rwa [List.mem_singleton.mp inside]

theorem Clean.get? (clean : Clean fields) {n : Node} (there : get? name fields = some n) : n.toDocument.passable := by
  obtain ⟨e, found, rfl⟩ := Option.map_eq_some_iff.mp there
  exact clean e (List.mem_of_find?_eq_some found)

theorem Clean.put (clean : Clean fields) {n : Node} (passable : n.toDocument.passable) : Clean (put name n fields) := by
  induction fields with
  | nil => exact List.forall_mem_singleton.mpr passable
  | cons e fields ih =>
    obtain ⟨first, later⟩ := List.forall_mem_cons.mp clean
    rw [Toml.put]
    split
    · exact List.forall_mem_cons.mpr ⟨passable, later⟩
    · exact List.forall_mem_cons.mpr ⟨first, ih later⟩

def Keeps (f : Origin → Fields → Option Fields) : Prop :=
  ∀ origin fields inner, Clean fields → f origin fields = some inner → Clean inner

theorem replaceLast_clean {items items' : List Fields} {f : Fields → Option Fields}
    (keeps : ∀ fields inner, Clean fields → f fields = some inner → Clean inner)
    (each : ∀ fields ∈ items, Clean fields) (replaced : replaceLast items f = some items') :
    ∀ fields ∈ items', Clean fields := by
  rw [replaceLast] at replaced
  split at replaced
  next => cases replaced
  next last before reversed =>
    obtain ⟨last', changed, rfl⟩ := Option.map_eq_some_iff.mp replaced
    have turned : ∀ fields ∈ last :: before, Clean fields := fun fields inside =>
      each fields (List.mem_reverse.mp (reversed ▸ inside))
    obtain ⟨first, rest⟩ := List.forall_mem_cons.mp turned
    intro fields inside
    rw [List.mem_reverse] at inside
    exact List.forall_mem_cons.mpr ⟨keeps _ _ first changed, rest⟩ fields inside

theorem Keeps.descend {isDotted : Bool} (keeps : Keeps f) (path : List String) : Keeps (descend isDotted f path) := by
  induction path with
  | nil => exact keeps
  | cons name path ih =>
    intro origin fields inner clean changed
    rw [Toml.descend] at changed
    split at changed
    next => -- a new table
      obtain ⟨new, made, rfl⟩ := Option.map_eq_some_iff.mp changed
      exact clean.append ((passable_node _).mpr (ih _ _ _ Clean.nil made))
    next => cases changed
    next items there =>
      obtain ⟨items', replaced, rfl⟩ := Option.map_eq_some_iff.mp changed
      have each := (passable_tables items).mp (clean.get? there)
      exact clean.put ((passable_tables items').mpr (replaceLast_clean (ih _) each replaced))
    next origin own there =>
      split at changed
      next => cases changed
      obtain ⟨own', made, rfl⟩ := Option.map_eq_some_iff.mp changed
      have within := (passable_node origin).mp (clean.get? there)
      exact clean.put ((passable_node origin).mpr (ih _ _ _ within made))

theorem stateAt_keeps {isDotted : Bool} {d : Document} (passable : d.passable) : Keeps (stateAt isDotted name d) := by
  intro origin fields inner clean stated
  rw [stateAt] at stated
  split at stated
  · cases stated
  · cases stated
    exact clean.append passable

theorem assign_clean {path : List String} {d : Document} (passable : d.passable) (clean : Clean fields)
    (assigned : assign path name d fields = some inner) : Clean inner :=
  (stateAt_keeps passable).descend path _ _ _ clean assigned

theorem openTable_keeps : Keeps (openTable name) := by
  intro origin fields inner clean opened
  rw [openTable] at opened
  split at opened
  next =>
    cases opened
    exact clean.append ((passable_node _).mpr Clean.nil)
  next own there =>
    cases opened
    exact clean.put ((passable_node _).mpr ((passable_node _).mp (clean.get? there)))
  next => cases opened

theorem openItem_keeps : Keeps (openItem name) := by
  intro origin fields inner clean opened
  rw [openItem] at opened
  split at opened
  next =>
    cases opened
    exact clean.append ((passable_tables _).mpr (List.forall_mem_singleton.mpr Clean.nil))
  next items there =>
    cases opened
    have each := (passable_tables items).mp (clean.get? there)
    refine clean.put ((passable_tables _).mpr fun fields inside => ?_)
    rcases List.mem_append.mp inside with inside | inside
    · exact each fields inside
    · rw [List.mem_singleton.mp inside]
      exact Clean.nil
  next => cases opened

end Tables

section Values

variable {item : Scan Document} {fields : Fields}

theorem items_passable (each : ReadsPassable item) (fuel : Nat) :
    ∀ {read : List Document}, (∀ d ∈ read, d.passable) → Yields (fun ds => ∀ d ∈ ds, d.passable) (items item read fuel) := by
  induction fuel with
  | zero => exact fun _ => yields_failure
  | succ fuel ih =>
    intro read before
    refine yields_bind fun _ => yields_bind fun ends => ?_
    have reversed {ds : List Document} (all : ∀ d ∈ ds, d.passable) :
        Yields (fun ds => ∀ d ∈ ds, d.passable) (pure ds.reverse) :=
      yields_pure fun d inside => all d (List.mem_reverse.mp inside)
    split
    · exact reversed before
    refine each.bind fun d passable => ?_
    refine yields_bind fun _ => yields_bind fun more => ?_
    have now : ∀ e ∈ d :: read, e.passable := List.forall_mem_cons.mpr ⟨passable, before⟩
    split
    · exact ih now
    · exact yields_bind fun _ => reversed now

theorem pair_clean (each : ReadsPassable item) (clean : Clean fields) : Yields Clean (pair item fields) := by
  refine yields_bind fun (path, name) => yields_bind fun _ => yields_bind fun _ => each.bind fun d passable => ?_
  split
  next assigned => exact yields_pure (assign_clean passable clean assigned)
  next => exact yields_failure

theorem pairs_clean (each : ReadsPassable item) (fuel : Nat) :
    ∀ {fields}, Clean fields → Yields Clean (pairs item fields fuel) := by
  induction fuel with
  | zero => exact fun _ => yields_failure
  | succ fuel ih =>
    intro fields clean
    refine (pair_clean each clean).bind fun fields clean => yields_bind fun _ => yields_bind fun more => ?_
    split
    · exact ih clean
    · exact yields_bind fun _ => yields_pure clean

theorem valueWith_passable {container : Char → Scan Document} (each : ∀ c, ReadsPassable (container c)) :
    ReadsPassable (valueWith container) := by
  refine yields_bind fun c => ?_
  split
  · exact yields_failure
  next c =>
  split
  · exact yields_bind fun s => yields_pure rfl
  split
  · exact each c
  split
  · exact numberOrDate_passable
  split
  · exact number_passable
  refine yields_bind fun yes => ?_
  split
  · exact yields_pure rfl
  refine yields_bind fun no => ?_
  split
  · exact yields_pure rfl
  · exact yields_failure

theorem value_passable (depth : Nat) : ReadsPassable (value depth) := by
  induction depth with
  | zero => exact valueWith_passable fun _ => yields_failure
  | succ depth ih =>
    refine valueWith_passable fun c => yields_bind fun _ => ?_
    split
    · refine yields_bind fun _ => (items_passable ih _ (List.forall_mem_nil _)).bind fun ds all => yields_pure ?_
      exact (Document.passableItems_iff ds).mpr all
    refine yields_bind fun _ => yields_bind fun ends => ?_
    split
    · exact yields_pure rfl
    · exact yields_bind fun _ => (pairs_clean ih _ Clean.nil).bind fun fields clean =>
        yields_pure (passable_table.mpr clean)

theorem ofOption_yields {α : Type} {P : α → Prop} {o : Option α} (given : ∀ a, o = some a → P a) : Yields P (ofOption o) := by
  cases o with
  | none => exact yields_failure
  | some a => exact yields_pure (given a rfl)

theorem header_clean {s : State} (clean : Clean s.root) : Yields (fun s => Clean s.root) (header s) := by
  refine yields_bind fun isItem => yields_bind fun (path, name) => yields_bind fun _ => ?_
  have opens : Keeps (if isItem then openItem name else openTable name) := by
    split
    · exact openItem_keeps
    · exact openTable_keeps
  have rest : Yields (fun s => Clean s.root) (do
      lineEnd
      let root ← ofOption (descend false (if isItem then openItem name else openTable name) path .stated s.root)
      return (⟨root, path ++ [name]⟩ : State)) :=
    yields_bind fun _ => (ofOption_yields fun _ => opens.descend path _ _ _ clean).bind fun root clean => yields_pure clean
  cases isItem with
  | true => exact yields_bind fun _ => rest
  | false => exact rest

theorem assignment_clean {s : State} (clean : Clean s.root) : Yields (fun s => Clean s.root) (assignment s) := by
  refine yields_bind fun (path, name) => yields_bind fun _ => yields_bind fun _ => (value_passable _).bind fun d passable =>
    yields_bind fun _ => (ofOption_yields fun root assigned => ?_).bind fun root (clean : Clean root) => yields_pure clean
  exact Keeps.descend (fun _ _ _ => assign_clean passable) s.path _ _ _ clean assigned

theorem statements_clean (fuel : Nat) :
    ∀ {s : State}, Clean s.root → Yields (fun s => Clean s.root) (statements s fuel) := by
  induction fuel with
  | zero => exact fun clean => yields_pure clean
  | succ fuel ih =>
    intro s clean
    refine yields_bind fun _ => yields_bind fun _ => yields_bind fun ends => ?_
    split
    · exact yields_pure clean
    refine yields_bind fun line => ?_
    split
    · exact ih clean
    refine yields_bind fun opens => ?_
    split
    · exact (header_clean clean).bind fun s clean => ih clean
    · exact (assignment_clean clean).bind fun s clean => ih clean

theorem read?_passable {text : String} {d : Document} (read : read? text = some d) : d.passable := by
  have reads : ReadsPassable document :=
    yields_bind fun _ => yields_bind fun _ => (statements_clean _ Clean.nil).bind fun s clean =>
      yields_pure (passable_table.mpr clean)
  rw [read?, Scan.whole] at read
  split at read
  next a there =>
    cases read
    exact reads _ _ _ there
  next => cases read

end Values

end Toml
end BoundedScript
