import ClassSynthesis.Artifact
import ClassSynthesis.Diagnostic.Basic

/-!
# Generation

Every implementable contract of a model is synthesized and rendered on its own. A contract
that fails gets one error and no artifact; the others are not affected.

## Main definitions

- `ContractIndex.generateOne`: the outcome of one contract.
- `ContractIndex.generate`: the outcomes of all, in order of registration.
- `Generation.emitTo`: the artifacts handed over one by one.
-/

namespace ClassSynthesis

/-- The diagnostic for a synthesis that was given up. -/
def SynthesisError.diagnostic (e : SynthesisError) (file : String) : Diagnostic :=
  let report := Diagnostic.ofMessage file (some e.contract)
  match e.cause with
  | .unknownParent contract reference => report .unknownParent [contract, reference]
  | .unexpectedKind name found => report .unexpectedKind [name, found.name]
  | .emptyMemberName contract => report .emptyMemberName [contract]
  | .inheritanceTooDeep contract limit =>
    report .inheritanceTooDeep [contract, toString limit]
  | .unknownContract _ => report .unknownContract [e.contract]
  | .duplicateContract name => report .duplicateContract [name]

namespace SynthesizedClass

/-- The declarations of a collided name. -/
def originsNamed (c : SynthesizedClass) (name : String) : List MemberOrigin :=
  c.members.filter (·.name == name) |>.flatMap (·.resolved.origins)

/-- The warning for a collided name, with every declaration of it. -/
def collisionWarning (c : SynthesizedClass) (file name : String) : Diagnostic :=
  (c.originsNamed name).foldl
    (fun d origin =>
      d.withRelated file (some origin.contractName.qualified)
        ("'" ++ name ++ "' is declared here as "
          ++ origin.member.type.display origin.context ++ "."))
    (.ofMessage file (some c.name.qualified) .contractQualifiedMember [name])

/-- The warnings for all collided names. -/
def collisionWarnings (c : SynthesizedClass) (file : String) : List Diagnostic :=
  c.collisions.map (c.collisionWarning file)

end SynthesizedClass

/-- The result of generating one contract. -/
structure Outcome where
  /-- The contract. -/
  contract : ContractId
  /-- The name it is reported under. -/
  qualifiedName : String
  /-- The generated file; absent when the synthesis failed. -/
  artifact : Option Artifact
  /-- What was found. -/
  diagnostics : List Diagnostic
  deriving DecidableEq, Repr

/-- Whether one of the diagnostics is an error. -/
def Outcome.hasErrors (o : Outcome) : Bool := o.diagnostics.any Diagnostic.isError

/-- The outcomes of a batch. -/
structure Generation where
  /-- One outcome for each implementable contract, in order of registration. -/
  outcomes : List Outcome
  /-- What concerns the batch and no single contract. -/
  diagnostics : List Diagnostic
  deriving DecidableEq, Repr

namespace Generation

/-- The generated files, in order. -/
def artifacts (g : Generation) : List Artifact := g.outcomes.filterMap (·.artifact)

/-- The diagnostics of the batch and then those of each contract. -/
def allDiagnostics (g : Generation) : List Diagnostic :=
  g.diagnostics ++ g.outcomes.flatMap (·.diagnostics)

/-- Whether anything found is an error. -/
def hasErrors (g : Generation) : Bool := g.allDiagnostics.any Diagnostic.isError

/-- Hand artifacts over in order and count them; the first failure ends it. -/
def emitAll {m : Type → Type} [Monad m] (accept : Artifact → m Unit) :
    List Artifact → m Nat
  | [] => pure 0
  | artifact :: rest => do
    accept artifact
    let count ← emitAll accept rest
    return count + 1

/-- Hand every artifact over and count them; the first failure ends it. -/
def emitTo {m : Type → Type} [Monad m] (g : Generation) (accept : Artifact → m Unit) :
    m Nat :=
  emitAll accept g.artifacts

end Generation

namespace ContractIndex

/-- The model file of a contract; empty when there is none. -/
def sourceFileOf (index : ContractIndex) (id : ContractId) : String :=
  ((index.contract? id).bind (·.sourceFile)).getD ""

/-- Synthesize and render one contract. -/
def generateOne (index : ContractIndex) (options : RenderOptions) (id : ContractId) :
    Outcome :=
  match index.synthesize id options.className with
  | .ok c =>
    { contract := id
      qualifiedName := index.displayName id
      artifact := some (.ofClass c options)
      diagnostics := c.collisionWarnings (index.sourceFileOf id) }
  | .error e =>
    { contract := id
      qualifiedName := index.displayName id
      artifact := none
      diagnostics := [e.diagnostic (index.sourceFileOf id)] }

/-- Synthesize and render every implementable contract. A model without one gets a message
of its own. -/
def generate (index : ContractIndex) (options : RenderOptions) : Generation :=
  match index.implementable with
  | [] => ⟨[], [.ofMessage "" none .noPartialContracts []]⟩
  | contracts => ⟨contracts.map (index.generateOne options), []⟩

end ContractIndex

end ClassSynthesis
