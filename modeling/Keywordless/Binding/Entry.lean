import Keywordless.Binding.Action

/-!
# The entry of a program

A program starts at the procedure `main`, which takes the arguments of the command line and returns
an exit status.
-/

namespace Keywordless

namespace Entry

variable {τ : Type}

def name : Bytes := "main"

def mainType : BindM τ TyId := do
  let text ← BindM.wrap .multipointer (← BindM.primitive .u8)
  let args ← BindM.wrap .slice text
  BindM.procedureType [args] (← BindM.primitive .int)

/-- The node of `main` in the root scope, if it has the right type. A missing `main` is reported at
the start of `file`. -/
def check [ScopeStore τ] (file : FileId) : BindM τ NodeId := do
  match ← BindM.visible? Universe.root name with
  | none => BindM.fail .missingMain ⟨file, 0, 0⟩
  | some id =>
    let expected ← mainType
    let actual ← BindM.typeOf id
    if actual = expected then return id
    let node ← BindM.ask fun u => u.graph.get id
    BindM.fail (.badMain (← BindM.typeText expected) (← BindM.typeText actual)) node.span

end Entry

end Keywordless
