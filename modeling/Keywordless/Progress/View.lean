import Keywordless.Progress.Basic
import Keywordless.Text.Terminal
import Keywordless.Text.Width

/-!
# The progress view

Progress as text on a screen: a title, one line for each file, the counts, and a bar.
-/

namespace Keywordless

namespace Width

/-- Shortens a text to a width, with dots at its end where there is room for them. A width that is
not positive is no limit. -/
def ellipsis (t : Bytes) (width : Int) : Bytes :=
  if width ≤ 0 then t else truncate t width.toNat (if width ≤ 3 then [] else "...")

end Width

namespace Progress

private def frames : List String := ["⣾ ", "⣽ ", "⣻ ", "⢿ ", "⡿ ", "⣟ ", "⣯ ", "⣷ "]

private def statusWidth : Nat := 12

private def leastNameWidth : Nat := 20

private def expandTabs (t : Bytes) : Bytes :=
  t.flatMap fun b => if b = 0x09 then Bytes.spaces 4 else [b]

private def block (t : Bytes) : Bytes :=
  let lines := Bytes.splitOnByte Bytes.newline t
  let widest := (lines.map Terminal.width).foldl max 0
  if lines.length ≤ 1 then t
  else Bytes.join [Bytes.newline] (lines.map fun l => l ++ Bytes.spaces (widest - Terminal.width l))

private def header (p : Progress) : Bytes :=
  let title := p.title ++ Bytes.enclosed " (" p.label ")"
  let lead : Bytes :=
    if p.done then "done: " else Bytes.ofString (frames.getD p.frame "") ++ " "
  block (expandTabs (lead ++ title))

private def itemLine (p : Progress) (item : ProgressItem) : Bytes :=
  let nameWidth := max leastNameWidth (p.width - statusWidth - 4)
  "  " ++ Bytes.padLeft statusWidth item.status ++ " " ++ Width.ellipsis item.path nameWidth ++
    [Bytes.newline]

private def bar (width filled whole : Nat) : Bytes :=
  let percent := 0x20 :: Bytes.padLeft 3 (Bytes.ofNat (filled * 100 / whole)) ++ "%"
  let cells := width - percent.length
  let full := (2 * cells * filled + whole) / (2 * whole)
  (List.replicate full (Bytes.ofString "█")).flatten ++
    (List.replicate (cells - full) (Bytes.ofString "░")).flatten ++ percent

/-- The view, with a bar that is filled to `filled` of `whole` parts while the run goes on. Without
files there is nothing to show. -/
def view (p : Progress) (filled whole : Nat) : Bytes :=
  if p.items.isEmpty then []
  else
    let failed := p.failedCount
    p.header ++ "\n\n" ++ p.items.flatMap p.itemLine ++ "\n  " ++
      Bytes.ofNat p.finishedCount ++ "/" ++
      Bytes.ofNat p.items.length ++ " checked" ++
      (if failed = 0 then [] else Bytes.enclosed ", " (Bytes.ofNat failed) " failed") ++ "\n" ++
      (if p.done then bar (p.width - 4) 1 1 else bar (p.width - 4) filled whole) ++ "\n"

private def tenths (item : ProgressItem) : Nat :=
  if item.finished then 10
  else
    match item.stage with
    | .queued => 0
    | .parse => 2
    | .bind => 5
    | .entry => 9

def current (p : Progress) : Bytes :=
  p.view ((p.items.map tenths).foldl (· + ·) 0) (10 * p.items.length)

end Progress

end Keywordless
