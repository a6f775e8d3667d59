import Keywordless.Text.Clock
import Keywordless.Text.Decimal
import Keywordless.Text.Utf8

/-!
# TOML statements

A document is a sequence of statements: headers of tables, headers of rows, and assignments of
values to keys. Reading a statement does not ask whether its key is still free.
-/

namespace Keywordless

namespace Toml

abbrev Key := List Bytes

inductive Form where
  | text (value : Bytes)
  | integer (value : Int)
  | float
  | truth (value : Bool)
  | moment
  | list (items : List Form)
  | inline (members : List (Key × Form))

inductive Statement where
  | table (key : Key)
  | row (key : Key)
  | assign (key : Key) (value : Form)

/-! ## Characters -/

private def isBlank (b : UInt8) : Bool := b = 0x20 || b = 0x09

private def skipBlanks (text : Bytes) : Bytes := text.dropWhile isBlank

/-- Whether every character may stand in a document: no control characters but the tab, and a
carriage return only before a newline. -/
private def hasAllowedChars : Bytes → Bool
  | [] => true
  | 0x0D :: rest => rest.head? == some 0x0A && hasAllowedChars rest
  | b :: rest => (b ≥ 0x20 || b = 0x09 || b = 0x0A) && b != 0x7F && hasAllowedChars rest

private def skipComment (text : Bytes) : Bytes :=
  match text with
  | 0x23 :: rest => rest.dropWhile fun b => b != 0x0A && b != 0x0D
  | _ => text

private def skipLines : Nat → Bytes → Bytes
  | 0, text => text
  | steps + 1, text =>
    match skipComment (text.dropWhile fun b => isBlank b || b = 0x0A || b = 0x0D) with
    | 0x0A :: rest => skipLines steps rest
    | 0x0D :: rest => skipLines steps rest
    | rest => rest

private def endLine? (text : Bytes) : Option Bytes :=
  match skipComment (skipBlanks text) with
  | [] => some []
  | 0x0A :: rest => some rest
  | 0x0D :: rest => some rest
  | _ => none

/-! ## Texts -/

private def hexValue? (b : UInt8) : Option Nat :=
  if Bytes.isDigit b then some (b.toNat - 0x30)
  else if 0x61 ≤ b && b ≤ 0x66 then some (b.toNat - 0x57)
  else if 0x41 ≤ b && b ≤ 0x46 then some (b.toNat - 0x37)
  else none

private def escapedChar? (count : Nat) (text : Bytes) : Option (Bytes × Bytes) := do
  let digits ← (text.take count).mapM hexValue?
  let n := digits.foldl (fun n d => n * 16 + d) 0
  if digits.length = count && n.isValidChar then some (Utf8.encode (Char.ofNat n), text.drop count)
  else none

private def escape? : Bytes → Option (Bytes × Bytes)
  | 0x62 :: rest => some ([0x08], rest)
  | 0x74 :: rest => some ([0x09], rest)
  | 0x6E :: rest => some ([0x0A], rest)
  | 0x66 :: rest => some ([0x0C], rest)
  | 0x72 :: rest => some ([0x0D], rest)
  | 0x22 :: rest => some ([0x22], rest)
  | 0x5C :: rest => some ([0x5C], rest)
  | 0x75 :: rest => escapedChar? 4 rest
  | 0x55 :: rest => escapedChar? 8 rest
  | _ => none

private def basicText? : Nat → Bytes → Option (Bytes × Bytes)
  | 0, _ => none
  | _ + 1, [] => none
  | steps + 1, b :: rest =>
    if b = 0x22 then some ([], rest)
    else if b = 0x0A || b = 0x0D then none
    else if b = 0x5C then do
      let (c, rest) ← escape? rest
      let (more, rest) ← basicText? steps rest
      return (c ++ more, rest)
    else do
      let (more, rest) ← basicText? steps rest
      return (b :: more, rest)

private def literalText? (text : Bytes) : Option (Bytes × Bytes) :=
  let body := text.takeWhile fun b => b != 0x27 && b != 0x0A && b != 0x0D
  match text.drop body.length with
  | 0x27 :: rest => some (body, rest)
  | _ => none

/-- The quotes at the front of a text over several lines: up to two belong to it, three end it, and
up to two more before the end belong to it as well, or three after an escaped backslash. -/
private inductive Quotes where
  | inside (count : Nat)
  | closing (kept : Nat)
  | tooMany

private def quotesAt (quote : UInt8) (afterBackslash : Bool) (text : Bytes) : Quotes :=
  let count := (text.takeWhile (· == quote)).length
  let most := if afterBackslash then 6 else 5
  if count < 3 then .inside count else if count ≤ most then .closing (count - 3) else .tooMany

/-- The text after a backslash at the end of a line and the blanks that follow it. -/
private def continuation? (text : Bytes) : Option Bytes :=
  let isGap (b : UInt8) : Bool := isBlank b || b = 0x0A || b = 0x0D
  if (text.takeWhile isGap).contains 0x0A then some (text.dropWhile isGap) else none

/-- A text over several lines, after its opening quotes or an escaped backslash. Only double quotes
have escapes. -/
private def longText? (quote : UInt8) : Nat → Bool → Bytes → Option (Bytes × Bytes)
  | 0, _, _ => none
  | _ + 1, _, [] => none
  | steps + 1, afterBackslash, b :: rest =>
    if b = quote then
      match quotesAt quote afterBackslash (b :: rest) with
      | .closing kept => some (List.replicate kept quote, rest.drop (kept + 2))
      | .tooMany => none
      | .inside _ => do
        let (more, rest) ← longText? quote steps false rest
        return (b :: more, rest)
    else if b = 0x5C && quote = 0x22 then
      match continuation? rest with
      | some rest => longText? quote steps false rest
      | none => do
        let (c, after) ← escape? rest
        let (more, rest) ← longText? quote steps (rest.head? == some 0x5C) after
        return (c ++ more, rest)
    else do
      let (more, rest) ← longText? quote steps false rest
      return (b :: more, rest)

/-- A newline right after the opening quotes does not belong to the text. -/
private def dropFirstNewline : Bytes → Bytes
  | 0x0A :: rest => rest
  | 0x0D :: 0x0A :: rest => rest
  | text => text

private def text? : Bytes → Option (Bytes × Bytes)
  | 0x22 :: 0x22 :: 0x22 :: rest => longText? 0x22 (rest.length + 1) false (dropFirstNewline rest)
  | 0x27 :: 0x27 :: 0x27 :: rest => longText? 0x27 (rest.length + 1) false (dropFirstNewline rest)
  | 0x22 :: rest => basicText? (rest.length + 1) rest
  | 0x27 :: rest => literalText? rest
  | _ => none

/-! ## Keys -/

def isBareByte (b : UInt8) : Bool :=
  Bytes.isDigit b || Bytes.isLower b || Bytes.isUpper b || b = 0x5F || b = 0x2D

private def keyPart? : Bytes → Option (Bytes × Bytes)
  | 0x22 :: rest => basicText? (rest.length + 1) rest
  | 0x27 :: rest => literalText? rest
  | text =>
    let part := text.takeWhile isBareByte
    if part.isEmpty then none else some (part, text.drop part.length)

private def key? : Nat → Bytes → Option (Key × Bytes)
  | 0, _ => none
  | steps + 1, text => do
    let (part, rest) ← keyPart? (skipBlanks text)
    match skipBlanks rest with
    | 0x2E :: rest => do
      let (more, rest) ← key? steps rest
      return (part :: more, rest)
    | rest => return ([part], rest)

/-! ## Numbers and moments -/

private def isHexByte (b : UInt8) : Bool := (hexValue? b).isSome

/-- Every underscore stands between two digits, and the text ends in a digit. -/
private def hasGoodMarks (text : Bytes) : Bool :=
  let rec go (afterDigit : Bool) : Bytes → Bool
    | [] => afterDigit
    | b :: rest => (b != 0x5F || afterDigit) && go (isHexByte b) rest
  go false text

private def hasLeadingZero : Bytes → Bool
  | 0x30 :: b :: _ => !(b = 0x62 || b = 0x6F || b = 0x78)
  | s :: 0x30 :: _ :: _ => s = 0x2B || s = 0x2D
  | _ => false

private def valueInBase (base : Nat) (digits : Bytes) : Nat :=
  digits.foldl (fun n b => n * base + (hexValue? b).getD 0) 0

private def integerLimit : Int := (Nat.pow 2 63 : Nat)

private def integerValue : Bytes → Int
  | 0x30 :: 0x78 :: digits => valueInBase 16 digits
  | 0x30 :: 0x6F :: digits => valueInBase 8 digits
  | 0x30 :: 0x62 :: digits => valueInBase 2 digits
  | 0x2B :: digits => valueInBase 10 digits
  | 0x2D :: digits => -(valueInBase 10 digits : Int)
  | digits => valueInBase 10 digits

private def integer? (token : Bytes) : Option Form :=
  let value := integerValue (token.filter (· != 0x5F))
  if hasGoodMarks token && !hasLeadingZero token && decide (-integerLimit ≤ value) &&
    decide (value < integerLimit)
  then some (.integer value) else none

private def isFloat (token : Bytes) : Bool :=
  let isE (b : UInt8) : Bool := b = 0x65 || b = 0x45
  let pieces := (token.map fun b => if b = 0x2E || isE b then 0x20 else b).splitBy fun a b =>
    (a != 0x20) == (b != 0x20)
  match Decimal.parse? (Decimal.dropSign (token.filter (· != 0x5F))) with
  | none => false
  | some number =>
    !number.whole.isEmpty && number.fraction.all (!·.isEmpty) &&
      !hasLeadingZero (token.takeWhile fun b => b != 0x2E && !isE b) &&
      pieces.all (fun p => p.head? == some 0x20 || hasGoodMarks p) && number.fitsDouble

private def twoDigits? (limit : Nat) : Bytes → Option (Nat × Bytes)
  | a :: b :: rest =>
    let n := Bytes.decimalValue [a, b]
    if Bytes.isDigit a && Bytes.isDigit b && n ≤ limit then some (n, rest) else none
  | _ => none

private def date? (text : Bytes) : Option Bytes := do
  let year := text.take 4
  if year.length != 4 || !year.all Bytes.isDigit then none
  else
    let (month, rest) ← twoDigits? 12 (← Bytes.dropLead? "-" (text.drop 4))
    let (day, rest) ← twoDigits? 31 (← Bytes.dropLead? "-" rest)
    let isDay := 1 ≤ month && 1 ≤ day && day ≤ Clock.daysIn (Bytes.decimalValue year) month
    if isDay then some rest else none

/-- A time of day with an optional fraction of the second. The hour may have one digit. -/
private def time? (text : Bytes) : Option Bytes := do
  let hour := (text.take 2).takeWhile Bytes.isDigit
  if hour.isEmpty || Bytes.decimalValue hour > 23 then none
  else
    let (_, rest) ← twoDigits? 59 (← Bytes.dropLead? ":" (text.drop hour.length))
    let (_, rest) ← twoDigits? 59 (← Bytes.dropLead? ":" rest)
    match rest with
    | 0x2E :: b :: more =>
      if Bytes.isDigit b then some (more.dropWhile Bytes.isDigit) else some rest
    | _ => some rest

private def zone? : Bytes → Option Bytes
  | 0x5A :: rest => some rest
  | sign :: rest =>
    if sign = 0x2B || sign = 0x2D then do
      let (_, rest) ← twoDigits? 24 rest
      let (_, rest) ← twoDigits? 60 (← Bytes.dropLead? ":" rest)
      return rest
    else none
  | [] => none

private def isMoment (token : Bytes) : Bool :=
  let upper := token.map fun b =>
    if b = 0x7A then 0x5A else if b = 0x74 || b = 0x20 then 0x54 else b
  let both := (date? upper).bind fun rest => (Bytes.dropLead? "T" rest).bind time?
  date? upper == some [] || time? upper == some [] || both == some [] ||
    both.bind zone? == some []

private def dropTrailingBlanks (token : Bytes) : Bytes :=
  (token.reverse.dropWhile (· == 0x20)).reverse

private def orNothing (ok : Bool) (form : Form) : Option Form := if ok then some form else none

private def number? (text : Bytes) : Option (Form × Bytes) := do
  let digits := text.takeWhile Bytes.isDigit
  let scanned (p : UInt8 → Bool) : Bytes := text.takeWhile p
  let isDecimal (b : UInt8) : Bool := Bytes.isDigit b || b = 0x5F
  let isFloatByte (b : UInt8) : Bool :=
    isDecimal b || b = 0x2E || b = 0x2B || b = 0x2D || b = 0x65 || b = 0x45
  let decimal :=
    if digits.isEmpty then text.take 1 ++ (text.drop 1).takeWhile isDecimal
    else scanned isDecimal
  let next := text.drop digits.length
  let based (isDigitOf : UInt8 → Bool) : Option (Form × Bytes) := do
    let rest := text.drop 2
    let run := rest.takeWhile fun b => isDigitOf b || b = 0x5F
    if !(rest.head?.any isDigitOf) then none
    else return (← integer? (text.take 2 ++ run), rest.drop run.length)
  match text with
  | 0x30 :: 0x78 :: _ => based isHexByte
  | 0x30 :: 0x6F :: _ => based fun b => 0x30 ≤ b && b ≤ 0x37
  | 0x30 :: 0x62 :: _ => based fun b => b = 0x30 || b = 0x31
  | _ =>
    if digits.length > 0 && digits != [0x30] &&
        (next.head? == some 0x2D || next.head? == some 0x3A) then
      let token := scanned fun b =>
        Bytes.isDigit b || b = 0x2D || b = 0x3A || b = 0x54 || b = 0x74 || b = 0x20 || b = 0x2E ||
          b = 0x5A || b = 0x7A || b = 0x2B
      return (← orNothing (isMoment (dropTrailingBlanks token)) .moment, text.drop token.length)
    else
      match text.drop decimal.length with
      | b :: _ =>
        if b = 0x2E || b = 0x65 || b = 0x45 then
          let token := decimal ++ (text.drop decimal.length).takeWhile isFloatByte
          return (← orNothing (isFloat token) .float, text.drop token.length)
        else return (← integer? decimal, text.drop decimal.length)
      | [] => return (← integer? decimal, [])

private def words : List (String × Form) := [
  ("true", .truth true), ("false", .truth false), ("inf", .float), ("nan", .float),
  ("+inf", .float), ("+nan", .float), ("-inf", .float), ("-nan", .float)]

private def word? (text : Bytes) : Option (Form × Bytes) :=
  words.findSome? fun (w, form) => (Bytes.dropLead? w text).map (form, ·)

/-! ## Values and statements -/

mutual

private def value? : Nat → Bytes → Option (Form × Bytes)
  | 0, _ => none
  | steps + 1, text =>
    match skipBlanks text with
    | [] => none
    | 0x5B :: rest => do
      let (items, rest) ← items? steps rest
      return (.list items, rest)
    | 0x7B :: rest =>
      match skipBlanks rest with
      | 0x7D :: rest => some (.inline [], rest)
      | rest => do
        let (members, rest) ← members? steps rest
        return (.inline members, rest)
    | b :: rest =>
      if b = 0x22 || b = 0x27 then do
        let (value, rest) ← text? (b :: rest)
        return (.text value, rest)
      else
        match word? (b :: rest) with
        | some found => some found
        | none =>
          if Bytes.isDigit b || ((b = 0x2B || b = 0x2D) && rest.head?.any Bytes.isDigit) then
            number? (b :: rest)
          else none

private def items? : Nat → Bytes → Option (List Form × Bytes)
  | 0, _ => none
  | steps + 1, text =>
    match skipLines text.length text with
    | 0x5D :: rest => some ([], rest)
    | rest => do
      let (item, rest) ← value? steps rest
      match skipLines rest.length rest with
      | 0x2C :: rest => do
        let (more, rest) ← items? steps rest
        return (item :: more, rest)
      | 0x5D :: rest => return ([item], rest)
      | _ => none

private def members? : Nat → Bytes → Option (List (Key × Form) × Bytes)
  | 0, _ => none
  | steps + 1, text => do
    let (key, rest) ← key? (text.length + 1) text
    let (value, rest) ← value? steps (← Bytes.dropLead? "=" rest)
    match skipBlanks rest with
    | 0x2C :: rest => do
      let (more, rest) ← members? steps rest
      return ((key, value) :: more, rest)
    | 0x7D :: rest => return ([(key, value)], rest)
    | _ => none

end

private def statement? (text : Bytes) : Option (Statement × Bytes) :=
  match text with
  | 0x5B :: 0x5B :: rest => do
    let (key, rest) ← key? (rest.length + 1) rest
    return (.row key, ← endLine? (← Bytes.dropLead? "]]" rest))
  | 0x5B :: rest => do
    let (key, rest) ← key? (rest.length + 1) rest
    return (.table key, ← endLine? (← Bytes.dropLead? "]" rest))
  | _ => do
    let (key, rest) ← key? (text.length + 1) text
    let (value, rest) ← value? (2 * text.length) (← Bytes.dropLead? "=" rest)
    return (.assign key value, ← endLine? rest)

private def statementsFrom? : Nat → Bytes → Option (List Statement)
  | 0, _ => none
  | steps + 1, text =>
    match skipLines text.length text with
    | [] => some []
    | text => do
      let (first, rest) ← statement? text
      return first :: (← statementsFrom? steps rest)

private def dropByteOrder (text : Bytes) : Bytes :=
  match text with
  | 0xFF :: 0xFE :: rest => rest
  | 0xFE :: 0xFF :: rest => rest
  | 0xEF :: 0xBB :: 0xBF :: rest => rest
  | _ => text

def statements? (document : Bytes) : Option (List Statement) :=
  let text := dropByteOrder document
  if Utf8.isValid text && hasAllowedChars text then statementsFrom? (text.length + 1) text else none

end Toml

end Keywordless
