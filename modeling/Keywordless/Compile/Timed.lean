import Keywordless.Compile.Basic

/-!
# Compiling by the clock

The stages of a compilation with readings of a clock between them, so that phases and trace spans
have durations. All else is as in `compile`.
-/

namespace Keywordless

class Clock (μ : Type → Type) where
  /-- The time when a value is there, in nanoseconds since 1970. -/
  after : {α : Type} → α → μ Int

/-- A pure computation takes no time. -/
instance : Clock Id where
  after _ := (0 : Int)

instance {σ : Type} {μ : Type → Type} [Monad μ] [Clock μ] : Clock (StateT σ μ) where
  after a := StateT.lift (Clock.after a)

namespace Compilation

variable {μ : Type → Type} [Monad μ] [Clock μ]

def tick (c : Compilation) : μ Compilation := do
  return { c with log := { c.log with now := ← Clock.after c } }

def throughTimed (c : Compilation) (stage : Stage) : μ Compilation := do
  if c.needs stage then
    let c ← c.tick
    let c ← ((c.enter stage).work stage).tick
    return c.leave (c.note stage)
  else return c

end Compilation

def compileTimed {μ : Type → Type} [Monad μ] [Clock μ] (options : CompileOptions) (files : FileSet)
    (file : SourceFile) (log : TraceLog) : μ Compilation := do
  let start := Compilation.ofFile options files file { log with now := ← Clock.after log }
  let c ← Compilation.plan.foldlM Compilation.throughTimed start
  return (← c.tick).finish

end Keywordless
