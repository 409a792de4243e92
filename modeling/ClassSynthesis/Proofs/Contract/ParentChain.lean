import ClassSynthesis.Proofs.Contract.Ancestors
import Mathlib.Data.List.Chain

/-!
# Chains of Parents

The depth at which a walk visits a contract counts the steps of the way on which the walk has
come there, which depends on the order of the parents and on what was visited before. Every
such way is a chain of parents in the index: it leads from one contract to a parent of it, and
because only contracts visited for the first time are passed on it, none comes up twice
(`Walk.Trail`). So a visit that is too deep shows a chain that is too long
(`Walk.Trail.exists_chain`).
-/

namespace ClassSynthesis

/-- A chain of parents that starts at a contract: each contract in it is a parent of the one
before, and all are distinct. A chain of `n + 1` contracts goes `n` steps up. -/
structure ContractIndex.IsParentChain (index : ContractIndex) (source : ContractId)
    (chain : List ContractId) : Prop where
  head : chain.head? = some source
  links : chain.IsChain index.IsParent
  nodup : chain.Nodup

/-- The start of a chain is a chain. -/
theorem ContractIndex.IsParentChain.take {index : ContractIndex} {source : ContractId}
    {chain : List ContractId} (h : index.IsParentChain source chain) (n : Nat) :
    index.IsParentChain source (chain.take (n + 1)) where
  head := by rw [List.head?_take, if_neg n.succ_ne_zero, h.head]
  links := h.links.take _
  nodup := h.nodup.sublist (List.take_sublist _ _)

/-- The contracts in a chain are reachable from its start. -/
theorem ContractIndex.IsParentChain.reachable {index : ContractIndex} {source : ContractId}
    {chain : List ContractId} (h : index.IsParentChain source chain) {id : ContractId}
    (hid : id ∈ chain) : index.Reachable source id := by
  refine List.IsChain.induction (index.Reachable source) chain h.links
    (fun _ _ hparent hchild => hchild.tail hparent) ?_ id hid
  intro hne
  rw [(List.head_eq_iff_head?_eq_some hne).2 h.head]
  exact Relation.ReflTransGen.refl

namespace Walk

/-- The way on which a walk from `source` has come to a pending visit: as many contracts as the
visit is deep, all of them visited and distinct, each a parent of the one before, and the
contract to visit a parent of the last. -/
structure Trail (index : ContractIndex) (source : ContractId) (order : List ContractId)
    (v : Visit) (trail : List ContractId) : Prop where
  head : (trail ++ [v.id]).head? = some source
  links : (trail ++ [v.id]).IsChain index.IsParent
  nodup : trail.Nodup
  visited : ∀ id ∈ trail, id ∈ order
  length : trail.length = v.depth

/-- There is a way to everything that is pending. -/
def HasTrails (index : ContractIndex) (source : ContractId) (walk : Walk) : Prop :=
  ∀ v ∈ walk.pending, ∃ trail, Trail index source walk.order v trail

variable {index : ContractIndex} {root : String} {source : ContractId}
  {order : List ContractId} {v : Visit} {rest : List Visit} {trail : List ContractId}

theorem Trail.mono {more : List ContractId} (h : Trail index source order v trail)
    (hsub : ∀ id ∈ order, id ∈ more) : Trail index source more v trail :=
  { h with visited := fun id hid => hsub id (h.visited id hid) }

/-- The way to a contract that has not been visited is a chain up to this contract. -/
theorem Trail.isParentChain (h : Trail index source order v trail) (hnew : v.id ∉ order) :
    index.IsParentChain source (trail ++ [v.id]) where
  head := h.head
  links := h.links
  nodup := by
    rw [← List.concat_eq_append]
    exact h.nodup.concat fun hmem => hnew (h.visited _ hmem)

/-- The way to a contract goes on to its parents once the contract has been visited. -/
theorem Trail.concat (h : Trail index source order v trail) (hnew : v.id ∉ order)
    {parent : ContractId} (hparent : index.IsParent v.id parent) :
    Trail index source (order ++ [v.id]) ⟨parent, v.depth + 1⟩ (trail ++ [v.id]) where
  head := by
    rw [List.head?_append, h.head]
    rfl
  links := by
    refine h.links.append (List.isChain_singleton _) ?_
    intro last hlast next hnext
    rw [List.getLast?_concat, Option.mem_some_iff] at hlast
    rw [List.head?_cons, Option.mem_some_iff] at hnext
    rwa [← hlast, ← hnext]
  nodup := (h.isParentChain hnew).nodup
  visited := by
    intro id hid
    rcases List.mem_append.1 hid with hid | hid
    · exact List.mem_append_left _ (h.visited id hid)
    · exact List.mem_append_right _ hid
  length := by rw [List.length_append, h.length, List.length_singleton]

theorem hasTrails_start (index : ContractIndex) (source : ContractId) :
    HasTrails index source (start source) := by
  intro v hv
  rw [List.mem_singleton.1 hv]
  exact ⟨[], rfl, List.isChain_singleton _, List.nodup_nil, by simp, rfl⟩

theorem HasTrails.pass (h : HasTrails index source ⟨order, v :: rest⟩) :
    HasTrails index source ⟨order, rest⟩ :=
  fun w hw => h w (List.mem_cons_of_mem _ hw)

/-- A visit finds ways to the parents and keeps those to the rest of what is pending. -/
theorem HasTrails.visit {parents : List ContractId}
    (h : HasTrails index source ⟨order, v :: rest⟩) (hnew : v.id ∉ order)
    (hvisit : index.visit root v = .ok parents) :
    HasTrails index source (afterVisit order v rest parents) := by
  intro w hw
  rcases List.mem_append.1 hw with hw | hw
  · -- A parent is one step further than the contract just visited.
    obtain ⟨parent, hparent, rfl⟩ := List.mem_map.1 hw
    obtain ⟨trail, htrail⟩ := h v List.mem_cons_self
    exact ⟨trail ++ [v.id], htrail.concat hnew ((ContractIndex.mem_parents_iff hvisit _).1 hparent)⟩
  · obtain ⟨trail, htrail⟩ := h w (List.mem_cons_of_mem _ hw)
    exact ⟨trail, htrail.mono fun id hid => List.mem_append_left _ hid⟩

/-- Where a first visit is deeper than a number of steps, there is a chain of one step more. -/
theorem Trail.exists_chain (h : Trail index source order v trail) (hnew : v.id ∉ order)
    {steps : Nat} (hdeep : steps < v.depth) :
    ∃ chain, index.IsParentChain source chain ∧ chain.length = steps + 2 := by
  -- The way to the visit is long enough, and its start is a chain as well.
  refine ⟨_, (h.isParentChain hnew).take (steps + 1), ?_⟩
  rw [List.length_take, List.length_append, h.length, List.length_singleton]
  omega

end Walk

end ClassSynthesis
