import Keywordless.Cli.Tracing
import Keywordless.Syntax.Outline
import Keywordless.Token.Listing

/-!
# Commands on one file

`tokenize` lists the tokens of a file, `parse` outlines its syntax tree, and `ir` dumps its graph.
-/

namespace Keywordless.Inspect

variable {μ : Type → Type} [Monad μ] [Host μ]

private def source (s : FlagSettings) (problem : FileError → CommandProblem) :
    CommandM μ (SourceFile × FileSet) := do
  let path := s.arguments.headD []
  let content ← CommandM.orFail problem (← liftM (FileAccess.readFile path : μ _))
  let (file, files) := FileSet.single path content
  let _ ← CommandM.orFail .fault (Cursor.ofFile file)
  return (file, files)

private def shared (s : FlagSettings) : CommandM μ SharedSettings :=
  CommandM.orFail .unknownSwitch (SharedSettings.ofFlags s)

private def verdict (failed : Bool) (bag : Bag) : CommandM μ Unit :=
  if failed then throw (.diagnostics bag.errorCount) else return ()

def tokenize (s : FlagSettings) : CommandM μ Unit := do
  let g ← shared s
  let (file, files) ← source s .tokenizing
  let tokens := file.tokens
  let bag := (Bag.ofLimit g.maxDiagnostics).addAll (lexReports tokens)
  g.printDiagnostics files bag
  let format := s.text .format
  if format == Bytes.ofString "pretty" then
    CommandM.putOut (← CommandM.orFail .fault (Token.listing files tokens))
  else if format == Bytes.ofString "json" then CommandM.putOut (Token.listingJson tokens)
  else throw (.unknownFormat format)
  verdict bag.hasErrors bag

def parse (s : FlagSettings) : CommandM μ Unit := do
  let g ← shared s
  let (file, files) ← source s .parsing
  let parsed := file.parse
  let bag := (Bag.ofLimit g.maxDiagnostics).addAll parsed.reports
  let format := s.text .format
  if format == Bytes.ofString "pretty" then
    g.printDiagnostics files bag
    if !parsed.failed then CommandM.putOut parsed.file.outline
  else if format == Bytes.ofString "json" then
    CommandM.putOut (Report.json files { positions := true, notes := true } bag.items).document
  else throw (.unknownFormat format)
  verdict (parsed.failed || bag.hasErrors) bag

def ir (s : FlagSettings) (tracing : Tracing) : CommandM μ Unit := do
  let format := s.text .format
  if ["pretty", "json", "yaml"].all (fun f => format != Bytes.ofString f) then
    throw (.unknownFormat format)
  let g ← shared s
  let (file, files) ← source s .compiling
  let options : CompileOptions :=
    { maxDiagnostics := g.maxDiagnostics, skipEntry := !s.toggle .entry }
  let c ← liftM (compileTimed options files file tracing.log : μ _)
  let _ ← liftM (tracing.follow c.log : μ _)
  g.printDiagnostics c.files c.bag
  liftM (g.printTimings "ir" c.timer.report : μ _)
  match c.root, c.world with
  | some root, some world =>
    let dump ← CommandM.orFail .fault (world.dump root)
    CommandM.putOut (dump.text (.ofName format))
    verdict c.bag.hasErrors c.bag
  | _, _ => verdict true c.bag

end Keywordless.Inspect
