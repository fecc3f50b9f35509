import ExportIndex.Proofs.Arena.Construction
import Mathlib

/-
This file compares arenas with the calls that build them. A node records the calls that name it:
its edges are those that lead from it, in their order, and its parent is that of the first edge
that leads to it from another node.
-/

namespace ExportIndex.Arena

/-- A call that changes an arena. -/
inductive Call where
  | push (kind : String) (start stop : Nat)
  | attach (parent : Nat) (field : Option String) (child : Nat)
deriving DecidableEq, Repr

/-- The arena behind a call, unless the call names a node that is not there. -/
def perform? (arena : Arena) : Call → Option Arena
  | .push kind start stop => some (arena.push kind start stop)
  | .attach parent field child => arena.attach? parent field child

def performAll? (arena : Arena) (calls : List Call) : Option Arena := calls.foldlM perform? arena

/-- What the nodes of an arena say of themselves. -/
def labels (arena : Arena) : List Label := arena.nodes.toList.map Node.toLabel

namespace Call

/-- What the node that a call adds says of itself. -/
def label? : Call → Option Label
  | push kind start stop => some ⟨kind, true, start, stop, 0, 0, false, false⟩
  | attach .. => none

/-- The child that a call gives a node. -/
def childOf? (id : Nat) : Call → Option Nat
  | push .. => none
  | attach parent _ child => if parent = id then some child else none

/-- The child under a field that a call gives a node. -/
def fieldOf? (id : Nat) : Call → Option (String × Nat)
  | push .. => none
  | attach parent field child => if parent = id then field.map fun name => (name, child) else none

/-- The parent that a call gives a node without one. -/
def parentOf? (id : Nat) : Call → Option Nat
  | push .. => none
  | attach parent _ child => if child = id ∧ child ≠ parent then some parent else none

/-- The calls name only nodes that are there by then, where `size` nodes are there before. -/
def InRange : Nat → List Call → Prop
  | _, [] => True
  | size, push .. :: rest => InRange (size + 1) rest
  | size, attach parent _ child :: rest => parent < size ∧ child < size ∧ InRange size rest

end Call

variable {arena before between after : Arena}

theorem attach?_eq_some_iff {parent child : Nat} {field : Option String} :
    arena.attach? parent field child = some after ↔
      parent < arena.size ∧ child < arena.size ∧ arena.attach parent field child = after := by
  simp only [attach?, Bool.and_eq_true, decide_eq_true_eq]
  split
  · next inRange => simp [inRange]
  · next outside =>
    constructor
    · intro done
      cases done
    · rintro ⟨parentInRange, childInRange, _⟩
      exact absurd ⟨parentInRange, childInRange⟩ outside

theorem performAll?_cons {call : Call} {rest : List Call} :
    before.performAll? (call :: rest) = some after ↔
      ∃ between, before.perform? call = some between ∧ between.performAll? rest = some after := by
  rw [performAll?, List.foldlM_cons]
  exact Option.bind_eq_some_iff

/-- Calls come to an arena if they name only nodes that are there. -/
theorem exists_performAll?_iff (arena : Arena) (calls : List Call) :
    (∃ after, arena.performAll? calls = some after) ↔ Call.InRange arena.size calls := by
  induction calls generalizing arena with
  | nil => simp [performAll?, Call.InRange]
  | cons call rest ih =>
    simp only [performAll?_cons]
    cases call with
    | push kind start stop =>
      have size : (arena.push kind start stop).size = arena.size + 1 := sizePushLabel arena _
      rw [Call.InRange, ← size, ← ih]
      simp [perform?]
    | attach parent field child =>
      rw [Call.InRange, ← sizeAttach arena parent field child, ← ih]
      simp only [perform?, attach?_eq_some_iff, sizeAttach]
      constructor
      · rintro ⟨after, _, ⟨parentInRange, childInRange, rfl⟩, done⟩
        exact ⟨parentInRange, childInRange, after, done⟩
      · rintro ⟨parentInRange, childInRange, after, done⟩
        exact ⟨after, _, ⟨parentInRange, childInRange, rfl⟩, done⟩

theorem Constructed.perform? (constructed : Constructed before) {call : Call}
    (done : before.perform? call = some after) : Constructed after := by
  cases call with
  | push kind start stop =>
    cases done
    exact constructed.push kind start stop
  | attach parent field child =>
    obtain ⟨parentInRange, childInRange, rfl⟩ := attach?_eq_some_iff.mp done
    exact constructed.attach parent field child parentInRange childInRange

theorem Constructed.performAll? (constructed : Constructed before) {calls : List Call}
    (done : before.performAll? calls = some after) : Constructed after := by
  induction calls generalizing before with
  | nil =>
    cases done
    exact constructed
  | cons call rest ih =>
    obtain ⟨between, first, others⟩ := performAll?_cons.mp done
    exact ih (constructed.perform? first) others

theorem getElem?_labels (arena : Arena) (id : Nat) :
    arena.labels[id]? = (arena.node? id).map Node.toLabel := by
  simp [labels, node?]

theorem labels_pushLabel (arena : Arena) (label : Label) :
    (arena.pushLabel label).labels = arena.labels ++ [label] := by
  simp [labels, pushLabel, Node.ofLabel]

theorem labels_attach (arena : Arena) (parent : Nat) (field : Option String) (child : Nat) :
    (arena.attach parent field child).labels = arena.labels := by
  have kept (id : Nat) (node : Node) :
      (let adopted := if child = id then adopt node child parent else node
        if parent = id then addEdge adopted field child else adopted).toLabel = node.toLabel := by
    simp only [adopt]
    split <;> split <;> (try split) <;> rfl
  refine List.ext_getElem? fun id => ?_
  rw [getElem?_labels, getElem?_labels, node?_attach, Option.map_map]
  exact congrArg (Option.map · _) (funext (kept id))

/-- What an arena has more than one before it is what some calls say. -/
structure Records (calls : List Call) (before after : Arena) : Prop where
  characters : after.characters = before.characters
  labels : after.labels = before.labels ++ calls.filterMap Call.label?
  children : ∀ id, after.children id = before.children id ++ calls.filterMap (Call.childOf? id)
  fields : ∀ id, after.fields id = before.fields id ++ calls.filterMap (Call.fieldOf? id)
  /-- A node keeps its parent, and one without a parent gets the first. -/
  parent : ∀ id, after.parent? id = (before.parent? id).or (calls.findSome? (Call.parentOf? id))

theorem Records.refl (arena : Arena) : Records [] arena arena :=
  ⟨rfl, by simp, by simp, by simp, by simp⟩

theorem Records.trans {first second : List Call} (earlier : Records first before between)
    (later : Records second between after) : Records (first ++ second) before after where
  characters := later.characters.trans earlier.characters
  labels := by rw [later.labels, earlier.labels, List.filterMap_append, List.append_assoc]
  children id := by
    rw [later.children, earlier.children, List.filterMap_append, List.append_assoc]
  fields id := by rw [later.fields, earlier.fields, List.filterMap_append, List.append_assoc]
  parent id := by rw [later.parent, earlier.parent, List.findSome?_append, Option.or_assoc]

theorem records_perform? {call : Call} (done : before.perform? call = some after) :
    Records [call] before after := by
  cases call with
  | push kind start stop =>
    cases done
    refine ⟨rfl, labels_pushLabel before _, fun id => ?_, fun id => ?_, fun id => ?_⟩
    all_goals simp [push, Call.childOf?, Call.fieldOf?, Call.parentOf?]
  | attach parent field child =>
    obtain ⟨parentInRange, childInRange, rfl⟩ := attach?_eq_some_iff.mp done
    refine ⟨rfl, ?_, fun id => ?_, fun id => ?_, fun id => ?_⟩
    · simp [labels_attach, Call.label?]
    · rw [children_attach _ _ _ _ _ parentInRange]
      by_cases here : parent = id <;> simp [Call.childOf?, here]
    · rw [fields_attach _ _ _ _ _ parentInRange]
      by_cases here : parent = id <;> cases field <;> simp [Call.fieldOf?, here]
    · rw [parent?_attach _ _ _ _ _ childInRange]
      simp [Call.parentOf?]

/-- Whatever the calls, the arena behind them records them. -/
theorem records_performAll? {calls : List Call} (done : before.performAll? calls = some after) :
    Records calls before after := by
  induction calls generalizing before with
  | nil =>
    cases done
    exact .refl _
  | cons call rest ih =>
    obtain ⟨between, first, others⟩ := performAll?_cons.mp done
    exact (records_perform? first).trans (ih others)

section Label

variable {id : Nat}

theorem kind_eq_of_label
    (same : (after.node? id).map Node.toLabel = (before.node? id).map Node.toLabel) :
    after.kind id = before.kind id := by
  have kind (arena : Arena) :
      arena.kind id = ((arena.node? id).map Node.toLabel).elim "" Label.kind := by
    rw [Arena.kind]
    cases arena.node? id <;> rfl
  rw [kind, kind, same]

theorem isNamed_eq_of_label
    (same : (after.node? id).map Node.toLabel = (before.node? id).map Node.toLabel) :
    after.isNamed id = before.isNamed id := by
  have isNamed (arena : Arena) :
      arena.isNamed id = ((arena.node? id).map Node.toLabel).elim false Label.named := by
    rw [Arena.isNamed]
    cases arena.node? id <;> rfl
  rw [isNamed, isNamed, same]

theorem text_eq_of_label (characters : after.characters = before.characters)
    (same : (after.node? id).map Node.toLabel = (before.node? id).map Node.toLabel) :
    after.text id = before.text id := by
  have text (arena : Arena) :
      arena.text id = ((arena.node? id).map Node.toLabel).elim "" fun label =>
        String.ofList ((slice? arena.characters label.start label.stop).getD []) := by
    rw [Arena.text]
    cases arena.node? id <;> rfl
  rw [text, text, same, characters]

/-- What stands under a field is a matter of the edges under fields. -/
theorem field?_eq_of_fields (same : after.fields id = before.fields id) (name : String) :
    after.field? id name = before.field? id name := by
  rw [Arena.fields, Arena.fields] at same
  rw [field?, field?, fieldAll, fieldAll, same]

end Label

section Untouched

variable {calls : List Call} {id : Nat}

/-- No call gives a node a child. -/
def Untouched (calls : List Call) (id : Nat) : Prop :=
  ∀ field child, Call.attach id field child ∉ calls

theorem Records.label_eq (records : Records calls before after) (inRange : id < before.size) :
    (after.node? id).map Node.toLabel = (before.node? id).map Node.toLabel := by
  have inList : id < before.labels.length := by simpa [Arena.labels, size] using inRange
  rw [← getElem?_labels, ← getElem?_labels, records.labels, List.getElem?_append_left inList]

theorem Records.kind_eq (records : Records calls before after) (inRange : id < before.size) :
    after.kind id = before.kind id :=
  kind_eq_of_label (records.label_eq inRange)

theorem Records.isNamed_eq (records : Records calls before after) (inRange : id < before.size) :
    after.isNamed id = before.isNamed id :=
  isNamed_eq_of_label (records.label_eq inRange)

theorem Records.text_eq (records : Records calls before after) (inRange : id < before.size) :
    after.text id = before.text id :=
  text_eq_of_label records.characters (records.label_eq inRange)

theorem Records.children_eq (records : Records calls before after)
    (untouched : Untouched calls id) : after.children id = before.children id := by
  have silent : calls.filterMap (Call.childOf? id) = [] := by
    rw [List.filterMap_eq_nil_iff]
    rintro (_ | ⟨parent, field, child⟩) member
    · rfl
    · refine if_neg ?_
      rintro rfl
      exact untouched field child member
  rw [records.children, silent, List.append_nil]

theorem Records.namedChildren_eq (records : Records calls before after)
    (untouched : Untouched calls id) (linked : Linked before) :
    after.namedChildren id = before.namedChildren id := by
  rw [namedChildren, namedChildren, records.children_eq untouched]
  exact List.filter_congr fun child member => records.isNamed_eq (linked.inRange id child member)

theorem Records.fields_eq (records : Records calls before after) (untouched : Untouched calls id) :
    after.fields id = before.fields id := by
  have silent : calls.filterMap (Call.fieldOf? id) = [] := by
    rw [List.filterMap_eq_nil_iff]
    rintro (_ | ⟨parent, name, child⟩) member
    · rfl
    · refine if_neg ?_
      rintro rfl
      exact untouched name child member
  rw [records.fields, silent, List.append_nil]

theorem Records.field?_eq (records : Records calls before after) (untouched : Untouched calls id)
    (field : String) : after.field? id field = before.field? id field :=
  field?_eq_of_fields (records.fields_eq untouched) field

end Untouched

/-- The edges of an arena lead to its nodes, and those of one kind fit those of another. -/
structure Consistent (arena : Arena) : Prop where
  childInRange : ∀ id, ∀ child ∈ arena.children id, child < arena.size
  fieldInRange : ∀ id, ∀ edge ∈ arena.fields id, edge.2 < arena.size
  parentInRange : ∀ id, ∀ parent ∈ arena.parent? id, parent < arena.size
  /-- The children under fields are ordered children, in one order. -/
  doubled : ∀ id, ((arena.fields id).map Prod.snd).Sublist (arena.children id)
  apart : ∀ id, arena.parent? id ≠ some id
  listed : ∀ id, ∀ parent ∈ arena.parent? id, id ∈ arena.children parent

namespace Call

theorem fields_sublist (id : Nat) (calls : List Call) :
    ((calls.filterMap (fieldOf? id)).map Prod.snd).Sublist (calls.filterMap (childOf? id)) := by
  induction calls with
  | nil => exact .slnil
  | cons call rest ih =>
    cases call with
    | push kind start stop =>
      rw [List.filterMap_cons_none rfl, List.filterMap_cons_none rfl]
      exact ih
    | attach parent field child =>
      by_cases here : parent = id
      · cases field with
        | none => simpa [fieldOf?, childOf?, here] using ih.cons child
        | some name => simpa [fieldOf?, childOf?, here] using ih
      · simpa [fieldOf?, childOf?, here] using ih

/-- A call that gives a node a parent gives that parent another node as a child. -/
theorem parentOf?_eq_some {id parent : Nat} {call : Call}
    (gives : call.parentOf? id = some parent) : id ≠ parent ∧ call.childOf? parent = some id := by
  cases call with
  | push kind start stop => cases gives
  | attach start field child =>
    rw [parentOf?] at gives
    split at gives
    · next leads =>
      obtain ⟨rfl, apart⟩ := leads
      cases gives
      exact ⟨apart, if_pos rfl⟩
    · cases gives

end Call

/-- What is recorded from nothing on is consistent. -/
theorem Records.consistent {source : String} {calls : List Call}
    (records : Records calls (empty source) arena) (linked : Linked arena) : Consistent arena := by
  have given {id parent : Nat} (isParent : arena.parent? id = some parent) :
      id ≠ parent ∧ id ∈ arena.children parent := by
    have first : calls.findSome? (Call.parentOf? id) = some parent :=
      (records.parent id).symm.trans isParent
    obtain ⟨call, member, gives⟩ := List.exists_of_findSome?_eq_some first
    obtain ⟨apart, child⟩ := Call.parentOf?_eq_some gives
    exact ⟨apart, records.children parent ▸ List.mem_filterMap.mpr ⟨call, member, child⟩⟩
  exact {
    childInRange := linked.inRange
    fieldInRange id edge member := linked.inRange id edge.2 (linked.doubled id edge member)
    parentInRange id parent isParent := lt_size_of_mem_children (given isParent).2
    doubled id := by
      rw [records.fields, records.children]
      exact Call.fields_sublist id calls
    apart id isParent := (given isParent).1 rfl
    listed id parent isParent := (given isParent).2 }

/-- An arena has one more node than one before it, and that node has no edges. -/
structure Pushed (kind : String) (start stop : Nat) (before after : Arena) : Prop where
  characters : after.characters = before.characters
  others : ∀ id ≠ before.size, after.node? id = before.node? id
  newest : after.node? before.size =
    some ⟨⟨kind, true, start, stop, 0, 0, false, false⟩, none, [], []⟩

/-- An arena has one more edge than one before it. -/
structure Attached (parent : Nat) (field : Option String) (child : Nat) (before after : Arena) :
    Prop where
  characters : after.characters = before.characters
  others : ∀ id, id ≠ parent → id ≠ child → after.node? id = before.node? id
  /-- At the far end, nothing but a parent may be new. -/
  atChild : child ≠ parent → after.node? child = (before.node? child).map fun node =>
    { node with parent := node.parent.or (some parent) }
  atParent : after.node? parent = (before.node? parent).map fun node =>
    { node with
      children := node.children ++ [child]
      fields := node.fields ++ (field.map fun name => (name, child)).toList }

/-- All that a call changes. -/
def Call.Changes (before after : Arena) : Call → Prop
  | push kind start stop => Pushed kind start stop before after
  | attach parent field child => Attached parent field child before after

theorem pushed (arena : Arena) (kind : String) (start stop : Nat) :
    Pushed kind start stop arena (arena.push kind start stop) where
  characters := rfl
  others id other := by rw [push, node?_pushLabel, if_neg other]
  newest := by rw [push, node?_pushLabel, if_pos rfl]; rfl

theorem attached (arena : Arena) (parent : Nat) (field : Option String) (child : Nat) :
    Attached parent field child arena (arena.attach parent field child) where
  characters := rfl
  others id notParent notChild := by
    rw [node?_attach]
    simp [Ne.symm notParent, Ne.symm notChild]
  atChild apart := by
    rw [node?_attach]
    refine congrArg (Option.map · _) (funext fun node => ?_)
    obtain ⟨label, known, children, fields⟩ := node
    cases known <;> simp [adopt, apart, Ne.symm apart]
  atParent := by
    rw [node?_attach]
    refine congrArg (Option.map · _) (funext fun node => ?_)
    by_cases loop : child = parent <;> simp [adopt, addEdge, loop]

theorem changes_perform? {call : Call} (done : before.perform? call = some after) :
    call.Changes before after := by
  cases call with
  | push kind start stop =>
    cases done
    exact pushed before kind start stop
  | attach parent field child =>
    obtain ⟨_, _, rfl⟩ := attach?_eq_some_iff.mp done
    exact attached before parent field child

/-- Calls that name only nodes that are there come to an arena that records them. Its edges are
consistent, no later call gives a node another parent, and each call changes its own nodes only. -/
theorem calls_keep_edges_consistent (source : String) (calls : List Call)
    (inRange : Call.InRange 0 calls) :
    ∃ arena, (empty source).performAll? calls = some arena ∧ Records calls (empty source) arena ∧
      Consistent arena ∧
      (∀ later after, arena.performAll? later = some after → ∀ id parent,
        arena.parent? id = some parent → after.parent? id = some parent) ∧
      ∀ call after, arena.perform? call = some after → call.Changes arena after := by
  obtain ⟨arena, done⟩ := (exists_performAll?_iff (empty source) calls).mpr inRange
  have records := records_performAll? done
  have linked : Linked arena := (Constructed.empty source).performAll? done |>.linked
  refine ⟨arena, done, records, records.consistent linked, ?_, fun call after => changes_perform?⟩
  intro later after goesOn id parent isParent
  rw [(records_performAll? goesOn).parent, isParent]
  rfl

/-- Two nodes that are each other's parents, with an edge that is given twice and a loop. -/
def tangledCalls : List Call :=
  [.push "first" 0 0, .push "second" 0 0, .attach 0 (some "parent") 1, .attach 1 none 0,
    .attach 0 none 1, .attach 1 (some "self") 1]

theorem calls_keep_edges_consistent_of_tangle :
    Call.InRange 0 tangledCalls ∧
    ∃ arena, (empty "").performAll? tangledCalls = some arena ∧ Consistent arena ∧
      arena.children 0 = [1, 1] ∧ arena.fields 0 = [("parent", 1)] ∧ arena.parent? 0 = some 1 ∧
      arena.children 1 = [0, 1] ∧ arena.fields 1 = [("self", 1)] ∧ arena.parent? 1 = some 0 := by
  have inRange : Call.InRange 0 tangledCalls := by simp [tangledCalls, Call.InRange]
  obtain ⟨arena, done, records, consistent, _⟩ :=
    calls_keep_edges_consistent "" tangledCalls inRange
  exact ⟨inRange, arena, done, consistent, records.children 0, records.fields 0, records.parent 0,
    records.children 1, records.fields 1, records.parent 1⟩

end ExportIndex.Arena
