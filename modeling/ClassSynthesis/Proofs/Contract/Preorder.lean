import ClassSynthesis.Proofs.Contract.Run

/-!
# The Closure as a Recursive Walk

The closure keeps a list of visits still to make. This module tells the same walk as a
recursion over parents, without such a list, and proves the two equal.

The connection is that a pending list is a sequence of calls still to be made: whatever is
pending in a walk, running the walk visits the pending contracts one after the other, each
unless it has been visited by then (`run_eq_foldlM`). A visit that goes on puts its parents
in front, which is what the recursive call does first (`preorder_eq`).

## Main definitions

- `ContractIndex.preorder`: the recursive walk from a contract at a depth.
- `ContractIndex.preorderClosure`: the walk from a contract that is named in errors.
-/

namespace ClassSynthesis

namespace ContractIndex

/-- The recursive walk that visits a contract at a depth, after the contracts of `order`. A
chain that is too long is met first, then a declaration that is no interface, then the last
parent listed that names nothing. A contract that passes is appended, and its parents are
visited in the order listed, except for those visited by then. -/
def preorder (index : ContractIndex) (root : String) (depth : Nat)
    (order : List ContractId) (id : ContractId) : Except ModelError (List ContractId) :=
  if _h : depth > maxInheritanceDepth then
    .error (.inheritanceTooDeep root maxInheritanceDepth)
  else
    match index.contract? id with
    | none => .error (.unknownContract id)
    | some contract =>
      if contract.kind ≠ .interfaceType then
        .error (.unexpectedKind contract.name.qualified contract.kind)
      else
        match (contract.parents.filter fun name => (index.lookup name).isNone).getLast? with
        | some reference => .error (.unknownParent contract.name.qualified reference)
        | none =>
          (contract.parents.filterMap index.lookup).foldlM
            (fun order parent =>
              if parent ∈ order then .ok order
              else preorder index root (depth + 1) order parent)
            (order ++ [id])
termination_by maxInheritanceDepth + 1 - depth
decreasing_by omega

/-- The recursive walk from a contract, or the error that there is no such contract. -/
def preorderClosure (index : ContractIndex) (id : ContractId) :
    Except ModelError (List ContractId) :=
  match index.contract? id with
  | none => .error (.unknownContract id)
  | some contract => index.preorder contract.name.qualified 0 [] id

/-- Make a pending visit unless the contract has been visited by then. -/
def visitNew (index : ContractIndex) (root : String) (order : List ContractId) (v : Visit) :
    Except ModelError (List ContractId) :=
  if v.id ∈ order then .ok order else index.preorder root v.depth order v.id

theorem unresolvedParent?_eq (index : ContractIndex) (contract : Contract) :
    index.unresolvedParent? contract =
      (contract.parents.filter fun name => (index.lookup name).isNone).getLast? := by
  rw [unresolvedParent?, List.getLast?_filter]

/-- The recursive walk makes the visit and then goes through the parents. -/
theorem preorder_eq (index : ContractIndex) (root : String) (order : List ContractId)
    (v : Visit) :
    index.preorder root v.depth order v.id =
      (index.visit root v).bind fun parents =>
        (parents.map (⟨·, v.depth + 1⟩)).foldlM (index.visitNew root) (order ++ [v.id]) := by
  rw [preorder, visit]
  -- Both sides make the same checks in the same order.
  by_cases hdepth : v.depth > maxInheritanceDepth
  · rw [dif_pos hdepth, if_pos hdepth]
    rfl
  · rw [dif_neg hdepth, if_neg hdepth]
    cases index.contract? v.id with
    | none => rfl
    | some contract =>
      by_cases hkind : contract.kind = .interfaceType
      · simp only [hkind, ne_eq, not_true_eq_false, if_false, Contract.isInterface, BEq.rfl,
          Bool.not_true, Bool.false_eq_true, unresolvedParent?_eq]
        cases (contract.parents.filter fun name => (index.lookup name).isNone).getLast? with
        | some reference => rfl
        | none =>
          change _ = ((index.parentIds contract).map _).foldlM _ _
          rw [List.foldlM_map]
          rfl
      · have hinterface : contract.isInterface = false := by
          simpa [Contract.isInterface] using hkind
        dsimp only
        rw [if_pos hkind, hinterface]
        rfl

end ContractIndex

namespace Walk

/-- Running a walk makes the pending visits one after the other. -/
theorem run_eq_foldlM (index : ContractIndex) (root : String) (walk : Walk) :
    walk.run index root = walk.pending.foldlM (index.visitNew root) walk.order := by
  induction walk using induct index root with
  | nil order => exact run_nil index root order
  | seen order v rest hseen ih =>
    rw [run_seen hseen, ih, List.foldlM_cons, ContractIndex.visitNew, if_pos hseen]
    rfl
  | visit order v rest hnew ih =>
    rw [run_visit hnew, List.foldlM_cons, ContractIndex.visitNew, if_neg hnew,
      ContractIndex.preorder_eq]
    cases hvisit : index.visit root v with
    | error e => rfl
    | ok parents =>
      -- The parents stand before the rest of what is pending, so they are visited first.
      change run index root (afterVisit order v rest parents) = _
      rw [ih parents hvisit, afterVisit, List.foldlM_append]
      rfl

end Walk

/-- The closure is the recursive walk. -/
theorem ContractIndex.closure_eq_preorderClosure (index : ContractIndex) (id : ContractId) :
    index.closure id = index.preorderClosure id := by
  rw [closure, preorderClosure, require]
  cases index.contract? id with
  | none => rfl
  | some contract =>
    change Walk.run index contract.name.qualified (Walk.start id) = _
    rw [Walk.run_eq_foldlM]
    change index.visitNew contract.name.qualified [] ⟨id, 0⟩ >>= pure = _
    rw [bind_pure, visitNew, if_neg List.not_mem_nil]

end ClassSynthesis
