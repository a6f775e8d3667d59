import Keywordless.Text.Blank
import Keywordless.Text.Json
import Keywordless.Text.Style
import Keywordless.Version.Constraint

/-!
# The build of the tool

Which version a build has, and where it comes from.
-/

namespace Keywordless

structure Build where
  number : Bytes := "0.1.0-dev"
  commit : Bytes := []
  date : Bytes := []

namespace Build

def version (b : Build) : Version := (Version.ofText? b.number).getD ⟨0, 0, 0, [], []⟩

def painted (b : Build) (color : Bool) : Bytes :=
  let v := b.version
  let part (hue : Attribute) (n : Nat) : Bytes :=
    (Style.mk [hue, .bold]).paint color (Bytes.ofNat n)
  part .yellow v.major ++ "." ++ part .green v.minor ++ "." ++ part .blue v.patch ++
    Bytes.enclosed "-" v.pre []

/-- Whether the build meets a constraint; prereleases count as their release. -/
def satisfies? (b : Build) (constraint : Bytes) : Option Bool :=
  (Constraint.ofText? constraint).map (·.allows b.version)

private def orUnknown (text : Bytes) : Bytes :=
  let trimmed := Bytes.trim text
  if trimmed.isEmpty then "unknown" else trimmed

structure Shown where
  color : Bool := false
  commit : Bool := false
  date : Bool := false

def pretty (b : Build) (shown : Shown) : Bytes :=
  let line (lead text : Bytes) : Bytes := lead ++ text ++ [Bytes.newline]
  line "nkl " (b.painted shown.color) ++
    (if shown.commit then line "commit: " (orUnknown b.commit) else []) ++
    (if shown.date then line "built:  " (orUnknown b.date) else [])

def json (b : Build) (shown : Shown) : Json :=
  let v := b.version
  .record [
    .field "tool" (.str "nkl"),
    .field "version" (.str b.number),
    .field "major" (.nat v.major),
    .field "minor" (.nat v.minor),
    .field "patch" (.nat v.patch),
    .fieldIf shown.commit "git_commit" (.str (orUnknown b.commit)),
    .fieldIf shown.date "build_date" (.str (orUnknown b.date))]

end Build

end Keywordless
