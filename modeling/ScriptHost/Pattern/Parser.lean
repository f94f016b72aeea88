import ScriptHost.Pattern.Source
import ScriptHost.Unicode.Names

/-!
# Reading patterns

`parse` reads a pattern text into nodes, or says what is wrong with it and where.  The order in
which faults are looked for is the order of reading; look-behind widths are checked last.
-/

namespace ScriptHost.Pattern

/-- What reading a pattern keeps track of. -/
structure Reading where
  source : Source
  flags : Flags
  /-- The widths of the groups, none while a group is open; the whole pattern is group zero. -/
  widths : Array (Option Width)
  names : List (Text × Nat)
  /-- The number of groups when the outermost open look-behind began. -/
  lookBehindGroups : Option Nat
  /-- Numbers of groups in conditions, with the places where they were first named. -/
  conditions : List (Nat × Nat)

/-- Readers of patterns. -/
abbrev Reader (α : Type) := StateT Reading (Except PatternError) α

namespace Reader

/-- The source at hand. -/
def source : Reader Source := return (← get).source

/-- Replaces the source. -/
def setSource (s : Source) : Reader Unit := modify fun r => { r with source := s }

/-- Fails `offset` places before the token at hand. -/
def fail {α : Type} (message : Text) (offset : Nat) : Reader α := do
  throw ((← source).error message offset)

/-- Takes the token at hand. -/
def take : Reader Text := do
  let s ← source
  setSource (← s.advance)
  return s.next

/-- Takes the token at hand if it is a given character. -/
def accept (c : Char) : Reader Bool := do
  match ← (← source).match? c with
  | some s => setSource s; return true
  | none => return false

/-- Takes up to `n` tokens of a class. -/
def takeWhile (p : CodePoint → Bool) (n : Nat) : Reader Text := do
  let (t, s) ← (← source).getWhile p n
  setSource s
  return t

/-- Takes the tokens up to a closing character. -/
def takeUntil (terminator : Char) (what : String) : Reader Text := do
  let (t, s) ← (← source).getUntil terminator what
  setSource s
  return t

/-- Whether a group exists and is closed. -/
def isClosed (index : Nat) : Reader Bool :=
  return (((← get).widths[index]?).bind id).isSome

/-- Refuses a reference from a look-behind to a group that it holds or that is open. -/
def checkLookBehind (index : Nat) : Reader Unit := do
  match (← get).lookBehindGroups with
  | none => return
  | some limit =>
    if !(← isClosed index) then fail "cannot refer to an open group" 0
    if limit ≤ index then
      fail "cannot refer to group defined in the same lookbehind subpattern" 0

end Reader

open Reader

/-- The class that an escape names. -/
def categoryOf? (c : CodePoint) : Option (Bool × Category) :=
  match c.ascii with
  | 'd' => some (false, .digit)
  | 'D' => some (true, .digit)
  | 's' => some (false, .space)
  | 'S' => some (true, .space)
  | 'w' => some (false, .word)
  | 'W' => some (true, .word)
  | _ => none

/-- The character that a simple escape stands for. -/
def simpleEscape? (c : CodePoint) : Option Nat :=
  match c.ascii with
  | 'a' => some 7
  | 'b' => some 8
  | 'f' => some 12
  | 'n' => some 10
  | 'r' => some 13
  | 't' => some 9
  | 'v' => some 11
  | '\\' => some 92
  | _ => none

/-- The position that an escape outside sets names. -/
def anchorOf? (c : CodePoint) : Option Anchor :=
  match c.ascii with
  | 'A' => some .beginningOfText
  | 'b' => some .boundary
  | 'B' => some .nonBoundary
  | 'Z' => some .endOfText
  | _ => none

/-- Reads the digits of an escape by number. -/
def readNumberEscape (token : Text) (count : Nat) : Reader Nat := do
  let digits ← takeWhile isHex count
  let shown := token ++ digits
  if digits.length != count then fail ("incomplete escape " ++ shown) shown.length
  let n := digitsIn 16 digits
  if n < 0x110000 then return n else fail ("bad escape " ++ shown) shown.length

/-- Reads the name of an escape by name. -/
def readNamedEscape : Reader Nat := do
  if !(← accept '\x7b') then fail "missing \x7b" 0
  let name ← takeUntil '\x7d' "character name"
  match (name.toString?).bind Unicode.byName? with
  | some c => return c.val
  | none => fail ("undefined character name " ++ name.quoted) (name.length + 4)

/-- The escapes that mean the same inside and outside sets; `d` is the escaped character. -/
def readSharedEscape? (token : Text) (d : CodePoint) : Reader (Option Nat) := do
  let isText := (← source).isText
  match d.ascii with
  | 'x' => return some (← readNumberEscape token 2)
  | 'u' => if isText then return some (← readNumberEscape token 4) else return none
  | 'U' => if isText then return some (← readNumberEscape token 8) else return none
  | 'N' => if isText then return some (← readNamedEscape) else return none
  | _ => return none

/-- Fails on an octal escape above the greatest byte. -/
def octalValue (token : Text) : Reader Nat := do
  let n := digitsIn 8 (token.drop 1)
  if 0o377 < n then
    fail ("octal escape value " ++ token ++ " outside of range 0-0o377") token.length
  return n

/-- The value of an escape that nothing else explains: the character itself, unless it is a letter
or a digit. -/
def plainEscape (token : Text) (d : CodePoint) : Reader Nat := do
  if isAsciiLetter d || d.isDigit then fail ("bad escape " ++ token) token.length
  return d.val

/-- Reads an escape inside a set. -/
def readSetEscape (token : Text) : Reader SetItem := do
  match token with
  | [_, d] =>
    if let some n := simpleEscape? d then return .literal n
    if let some (negated, c) := categoryOf? d then return .category negated c
    if let some n ← readSharedEscape? token d then return .literal n
    if isOctal d then
      let more ← takeWhile isOctal 2
      return .literal (← octalValue (token ++ more))
    return .literal (← plainEscape token d)
  | _ => fail "bad escape" 0

/-- Reads an escape by decimal digits: an octal escape of three digits, or a reference. -/
def readReference (token : Text) (d : CodePoint) : Reader Node := do
  let mut shown := token
  match (← source).next with
  | [e] =>
    if e.isDigit then
      shown := shown ++ (← take)
      match (← source).next with
      | [f] =>
        if isOctal d && isOctal e && isOctal f then
          shown := shown ++ (← take)
          return .literal (← octalValue shown)
      | _ => pure ()
  | _ => pure ()
  let index := digitsIn 10 (shown.drop 1)
  if index < (← get).widths.size then
    if !(← isClosed index) then fail "cannot refer to an open group" shown.length
    checkLookBehind index
    return .backReference index
  fail ("invalid group reference " ++ Text.ofNat index) (shown.length - 1)

/-- Reads an escape outside sets. -/
def readEscape (token : Text) : Reader Node := do
  match token with
  | [_, d] =>
    if let some (negated, c) := categoryOf? d then return .set false [.category negated c]
    if let some a := anchorOf? d then return .anchor a
    if let some n := simpleEscape? d then return .literal n
    if let some n ← readSharedEscape? token d then return .literal n
    if d.ascii == '0' then
      let more ← takeWhile isOctal 2
      return .literal (digitsIn 8 ((token ++ more).drop 1))
    if d.isDigit then return ← readReference token d
    return .literal (← plainEscape token d)
  | _ => fail "bad escape" 0

/-- The item of a token inside a set. -/
def readSetItem (token : Text) : Reader SetItem := do
  match token with
  | [c] => return .literal c.val
  | _ => readSetEscape token

/-- Adds an item to a set unless it is there. -/
def addItem (items : List SetItem) (item : SetItem) : List SetItem :=
  if items.contains item then items else items ++ [item]

/-- Reads the items of a set up to its closing bracket. -/
def readSetItems (start : Nat) : Nat → Bool → List SetItem → Reader (List SetItem)
  | 0, _, _ => fail "unterminated character set" 0
  | fuel + 1, isFirst, items => do
    let token ← take
    if token.isEmpty then
      fail "unterminated character set" ((← source).position - start)
    if token == [CodePoint.ofChar ']'] && !isFirst then return items
    let item ← readSetItem token
    if ← accept '-' then
      let other ← take
      if other.isEmpty then
        fail "unterminated character set" ((← source).position - start)
      if other == [CodePoint.ofChar ']'] then
        return addItem (addItem items item) (.literal 0x2D)
      let high ← readSetItem other
      let shown : Text := "bad character range " ++ token ++ "-" ++ other
      let offset := token.length + 1 + other.length
      match item, high with
      | .literal low, .literal high =>
        if high < low then fail shown offset
        readSetItems start fuel false (addItem items (.range low high))
      | _, _ => fail shown offset
    else readSetItems start fuel false (addItem items item)

/-- The node of a set. -/
def setNode (negated : Bool) (items : List SetItem) : Node :=
  match items with
  | [.literal c] => if negated then .notLiteral c else .literal c
  | _ => .set negated items

/-- The white space that verbose patterns skip. -/
def isPatternSpace (c : CodePoint) : Bool :=
  c.val == 0x20 || (9 ≤ c.val && c.val ≤ 13)

/-- Skips a comment up to the end of its line. -/
def skipLine : Nat → Reader Unit
  | 0 => return
  | fuel + 1 => do
    let token ← take
    if token.isEmpty || token == [CodePoint.ofChar '\n'] then return
    skipLine fuel

/-- Skips a comment in a group. -/
def skipComment (start : Nat) : Nat → Reader Unit
  | 0 => return
  | fuel + 1 => do
    if (← source).isAtEnd then
      fail "missing ), unterminated comment" ((← source).position - start)
    if (← take) == [CodePoint.ofChar ')'] then return
    skipComment start fuel

/-- The flag of a letter. -/
def flagOf? (t : Text) : Option Flags :=
  match t with
  | [c] =>
    match c.ascii with
    | 'i' => some { ignoreCase := true }
    | 'L' => some { locale := true }
    | 'm' => some { multiline := true }
    | 's' => some { dotAll := true }
    | 'x' => some { verbose := true }
    | 'a' => some { ascii := true }
    | 't' => some { template := true }
    | 'u' => some { unicode := true }
    | _ => none
  | _ => none

/-- Whether a token is a letter of any script. -/
def isLetterToken (t : Text) : Bool :=
  match t with
  | [c] => Unicode.isIdentifierStart c
  | _ => false

/-- Reads the flags that a group turns on; `token` is the letter at hand. The answer ends with the
token after them. -/
def readAddedFlags : Nat → Flags → Text → Reader (Flags × Text)
  | 0, flags, token => return (flags, token)
  | fuel + 1, flags, token => do
    match flagOf? token with
    | none => return (flags, token)
    | some flag =>
      if (← source).isText then
        if flag.locale then
          fail "bad inline flags: cannot use 'L' flag with a str pattern" 0
      else if flag.unicode then
        fail "bad inline flags: cannot use 'u' flag with a bytes pattern" 0
      let flags := flags.union flag
      if !flag.alphabet.isEmpty && flags.alphabet != flag then
        fail "bad inline flags: flags 'a', 'u' and 'L' are incompatible" 0
      let token ← take
      if token.isEmpty then fail "missing -, : or )" 0
      match token with
      | [c] =>
        match c.ascii with
        | ')' | '-' | ':' => return (flags, token)
        | _ => pure ()
      | _ => pure ()
      if (flagOf? token).isNone then
        fail (if isLetterToken token then "unknown flag" else "missing -, : or )") token.length
      readAddedFlags fuel flags token

/-- Reads the flags that a group turns off, up to the colon. -/
def readRemovedFlags : Nat → Flags → Text → Reader Flags
  | 0, flags, _ => return flags
  | fuel + 1, flags, token => do
    match flagOf? token with
    | none => return flags
    | some flag =>
      if !flag.alphabet.isEmpty then
        fail "bad inline flags: cannot turn off flags 'a', 'u' and 'L'" 0
      let flags := flags.union flag
      let token ← take
      if token.isEmpty then fail "missing :" 0
      if token == [CodePoint.ofChar ':'] then return flags
      if (flagOf? token).isNone then
        fail (if isLetterToken token then "unknown flag" else "missing :") token.length
      readRemovedFlags fuel flags token

/-- Reads the flags of a group: none if they hold for the whole pattern. -/
def readFlags (fuel : Nat) (token : Text) : Reader (Option (Flags × Flags)) := do
  let (add, token) ←
    if token == [CodePoint.ofChar '-'] then pure (({} : Flags), token)
    else readAddedFlags fuel {} token
  if token == [CodePoint.ofChar ')'] then
    modify fun r => { r with flags := r.flags.union add }
    return none
  if add.template then fail "bad inline flags: cannot turn on global flag" 1
  let remove ←
    if token == [CodePoint.ofChar '-'] then do
      let token ← take
      if token.isEmpty then fail "missing flag" 0
      if (flagOf? token).isNone then
        fail (if isLetterToken token then "unknown flag" else "missing flag") token.length
      readRemovedFlags fuel {} token
    else pure {}
  if remove.template then fail "bad inline flags: cannot turn off global flag" 1
  if !(add.minus (add.minus remove)).isEmpty then
    fail "bad inline flags: flag turned on and off" 1
  return some (add, remove)

/-- Refuses a group name that is no identifier. -/
def checkName (name : Text) : Reader Unit := do
  if !isName name then
    fail ("bad character in group name " ++ name.quoted) (name.length + 1)

/-- Opens a group, named or not. -/
def openGroup (name : Option Text) : Reader Nat := do
  let r ← get
  let index := r.widths.size
  match name with
  | none => set { r with widths := r.widths.push none }
  | some n =>
    match r.names.find? (·.1 == n) with
    | some (_, old) =>
      fail ("redefinition of group name " ++ n.quoted ++ " as group " ++ Text.ofNat index
        ++ "; was group " ++ Text.ofNat old) (n.length + 1)
    | none => set { r with widths := r.widths.push none, names := (n, index) :: r.names }
  return index

/-- Closes a group with its body. -/
def closeGroup (index : Nat) (body : List Node) : Reader Unit :=
  modify fun r => { r with widths := r.widths.setIfInBounds index (some (widthOf r.widths body)) }

/-- Puts the bodies of plain groups in their place. -/
def unpack (nodes : List Node) : List Node :=
  nodes.flatMap fun n =>
    match n with
    | .group none add remove body =>
      if add.isEmpty && remove.isEmpty then body else [n]
    | _ => [n]

/-- The node of a choice. -/
def branchNode (alternatives : List (List Node)) : List Node :=
  match alternatives with
  | [body] => body
  | _ => [.branch alternatives]

/-- Reads the counts of a repetition in braces; none when the brace is a character. -/
def readCounts (here : Nat) : Reader (Option (Nat × Option Nat)) := do
  if (← source).at? '\x7d' then return none
  let limit := (← source).points.size
  let low ← takeWhile CodePoint.isDigit limit
  let high ← if ← accept ',' then takeWhile CodePoint.isDigit limit else pure low
  if !(← accept '\x7d') then
    setSource (← (← source).seek here)
    return none
  let min := digitsIn 10 low
  if maxRepeat ≤ min then throw .countTooLarge
  if high.isEmpty then return some (min, none)
  let max := digitsIn 10 high
  if maxRepeat ≤ max then throw .countTooLarge
  if max < min then fail "min repeat greater than max repeat" ((← source).position - here)
  return some (min, some max)

/-- Repeats the last node; `offset` leads from the token at hand back to the quantifier. -/
def repeatLast (nodes : List Node) (here : Nat) (min : Nat) (max : Option Nat) :
    Reader (List Node) := do
  let offset := (← source).position - here + 1
  match nodes.getLast? with
  | none | some (.anchor _) => fail "nothing to repeat" offset
  | some (.repetition _ _ _ _) => fail "multiple repeat" offset
  | some last =>
    let body := unpack [last]
    let greed ←
      if ← accept '?' then pure Greed.lazy
      else if ← accept '+' then pure Greed.possessive
      else pure Greed.greedy
    return nodes.dropLast ++ [.repetition greed min max body]

/-- The number of the group that a condition names. -/
def readCondition : Reader Nat := do
  let name ← takeUntil ')' "group name"
  let offset := name.length + 1
  if isName name then
    match (← get).names.find? (·.1 == name) with
    | some (_, index) => return index
    | none => fail ("unknown group name " ++ name.quoted) offset
  match looseNumber? name with
  | none => fail ("bad character in group name " ++ name.quoted) offset
  | some index =>
    if index = 0 then fail "bad group number" offset
    if maxGroups ≤ index then fail ("invalid group reference " ++ Text.ofNat index) offset
    let place := (← source).position - name.length - 1
    modify fun r =>
      if r.conditions.any (·.1 == index) then r
      else { r with conditions := r.conditions ++ [(index, place)] }
    return index

/-- What opens after a parenthesis. -/
inductive Opening
  /-- A node, or nothing, is complete. -/
  | done (node : Option Node)
  /-- A group follows: whether it captures, its name, whether it is atomic, its flags. -/
  | group (capture : Bool) (name : Option Text) (atomic : Bool) (add remove : Flags)
  /-- A look around follows. -/
  | look (behind negated : Bool)
  /-- A condition has been read; its bodies follow. -/
  | condition (index : Nat)
  /-- Flags for the whole pattern were set. -/
  | globalFlags

/-- Reads what follows `(?P`. -/
def readNamedOpening : Reader Opening := do
  if ← accept '<' then
    let name ← takeUntil '>' "group name"
    checkName name
    return .group true (some name) false {} {}
  if ← accept '=' then
    let name ← takeUntil ')' "group name"
    checkName name
    match (← get).names.find? (·.1 == name) with
    | none => fail ("unknown group name " ++ name.quoted) (name.length + 1)
    | some (_, index) =>
      if !(← isClosed index) then fail "cannot refer to an open group" (name.length + 1)
      checkLookBehind index
      return .done (some (.backReference index))
  let token ← take
  if token.isEmpty then fail "unexpected end of pattern" 0
  fail ("unknown extension ?P" ++ token) (token.length + 2)

/-- Reads what follows an opening parenthesis at `start`. -/
def readOpening (fuel start : Nat) : Reader Opening := do
  if !(← accept '?') then return .group true none false {} {}
  let token ← take
  if token.isEmpty then fail "unexpected end of pattern" 0
  match token with
  | [c] =>
    match c.ascii with
    | 'P' => readNamedOpening
    | ':' => return .group false none false {} {}
    | '#' => do
      skipComment start fuel
      return .done none
    | '=' => return .look false false
    | '!' => return .look false true
    | '<' => do
      let token ← take
      if token.isEmpty then fail "unexpected end of pattern" 0
      match token with
      | [d] =>
        match d.ascii with
        | '=' => return .look true false
        | '!' => return .look true true
        | _ => fail ("unknown extension ?<" ++ token) (token.length + 2)
      | _ => fail ("unknown extension ?<" ++ token) (token.length + 2)
    | '(' => do
      let index ← readCondition
      checkLookBehind index
      return .condition index
    | '>' => return .group false none true {} {}
    | _ =>
      if (flagOf? token).isSome || c.ascii == '-' then
        match ← readFlags fuel token with
        | none => return .globalFlags
        | some (add, remove) => return .group false none false add remove
      else fail ("unknown extension ?" ++ token) (token.length + 1)
  | _ => fail ("unknown extension ?" ++ token) (token.length + 1)

/-- Takes the closing parenthesis of what opened at `start`. -/
def expectClosing (start : Nat) : Reader Unit := do
  if !(← accept ')') then
    fail "missing ), unterminated subpattern" ((← source).position - start)

mutual

/-- Reads a choice; `nested` says whether it stands inside parentheses. -/
def readBranch : Nat → Bool → Bool → List (List Node) → Reader (List Node)
  | 0, _, _, _ => fail "pattern too long" 0
  | fuel + 1, verbose, nested, done => do
    let body ← readSequence fuel verbose (!nested && done.isEmpty) []
    let done := done ++ [body]
    let outer := (← get).flags.verbose
    if ← accept '|' then readBranch fuel (if nested then verbose else outer) nested done
    else return branchNode done

/-- Reads a sequence up to a bar, a closing parenthesis or the end; `nodes` holds what has been
read of it. -/
def readSequence : Nat → Bool → Bool → List Node → Reader (List Node)
  | 0, _, _, _ => fail "pattern too long" 0
  | fuel + 1, verbose, first, nodes => do
    let token := (← source).next
    match token with
    | [] => return unpack nodes
    | [c] =>
      let a := c.ascii
      if a == '|' || a == ')' then return unpack nodes
      let _ ← take
      if verbose && isPatternSpace c then readSequence fuel verbose first nodes
      else if verbose && a == '#' then do
        skipLine (← source).points.size.succ
        readSequence fuel verbose first nodes
      else
        match a with
        | '[' => do
          let start := (← source).position - 1
          let negated ← accept '^'
          let items ← readSetItems start ((← source).points.size + 1) true []
          readSequence fuel verbose first (nodes ++ [setNode negated items])
        | '?' => do
          let here := (← source).position
          readSequence fuel verbose first (← repeatLast nodes here 0 (some 1))
        | '*' => do
          let here := (← source).position
          readSequence fuel verbose first (← repeatLast nodes here 0 none)
        | '+' => do
          let here := (← source).position
          readSequence fuel verbose first (← repeatLast nodes here 1 none)
        | '\x7b' => do
          let here := (← source).position
          match ← readCounts here with
          | none => readSequence fuel verbose first (nodes ++ [.literal c.val])
          | some (min, max) =>
            readSequence fuel verbose first (← repeatLast nodes here min max)
        | '.' => readSequence fuel verbose first (nodes ++ [.any])
        | '^' => readSequence fuel verbose first (nodes ++ [.anchor .beginning])
        | '$' => readSequence fuel verbose first (nodes ++ [.anchor .finish])
        | '(' => do
          let start := (← source).position - 1
          match ← readOpening ((← source).points.size + 1) start with
          | .globalFlags =>
            if !first || !nodes.isEmpty then
              fail "global flags not at the start of the expression" ((← source).position - start)
            readSequence fuel (← get).flags.verbose first nodes
          | opening => do
            let new ← readGroup fuel verbose start opening
            readSequence fuel verbose first (nodes ++ new)
        | _ => readSequence fuel verbose first (nodes ++ [.literal c.val])
    | _ => do
      let _ ← take
      let node ← readEscape token
      readSequence fuel verbose first (nodes ++ [node])

/-- Reads what a parenthesis at `start` opened, up to the closing one. -/
def readGroup : Nat → Bool → Nat → Opening → Reader (List Node)
  | 0, _, _, _ => fail "pattern too long" 0
  | fuel + 1, verbose, start, opening =>
    match opening with
    | .done node => return node.toList
    | .globalFlags => return []
    | .look behind negated => do
      let outer := (← get).lookBehindGroups
      if behind && outer.isNone then
        modify fun r => { r with lookBehindGroups := some r.widths.size }
      let body ← readBranch fuel verbose true []
      if behind && outer.isNone then modify fun r => { r with lookBehindGroups := none }
      expectClosing start
      return [.look behind negated body]
    | .condition index => do
      let yes ← readSequence fuel verbose false []
      let no ←
        if ← accept '|' then do
          let no ← readSequence fuel verbose false []
          if (← source).at? '|' then
            fail "conditional backref with more than two branches" 0
          pure no
        else pure []
      expectClosing start
      return [.conditional index yes no]
    | .group capture name atomic add remove => do
      let index ← if capture then do pure (some (← openGroup name)) else pure none
      let inner := (verbose || add.verbose) && !remove.verbose
      let body ← readBranch fuel inner true []
      expectClosing start
      if let some i := index then closeGroup i body
      return [if atomic then .atomic body else .group index add remove body]

end

/-- A compiled pattern. -/
structure Compiled where
  nodes : List Node
  flags : Flags
  /-- The widths of the groups that capture; the whole pattern is group zero. -/
  widths : Array (Option Width)
  names : List (Text × Nat)
  isText : Bool

/-- The number of groups that capture. -/
def Compiled.groups (p : Compiled) : Nat := p.widths.size - 1

mutual

/-- Checks that every look-behind of a node covers a fixed number of code points. -/
def checkNode (widths : Array (Option Width)) : Node → Except PatternError Unit
  | .look behind _ body => do
    if behind then
      let w := widthOf widths body
      if maxRepeat < w.1 then throw (.malformed "looks too much behind" none)
      if w.1 != w.2 then throw (.malformed "look-behind requires fixed-width pattern" none)
    checkNodes widths body
  | .repetition _ _ _ body | .group _ _ _ body | .atomic body => checkNodes widths body
  | .branch alternatives => checkAlternatives widths alternatives
  | .conditional _ yes no => do
    checkNodes widths yes
    checkNodes widths no
  | _ => .ok ()

/-- Checks the nodes of a sequence. -/
def checkNodes (widths : Array (Option Width)) : List Node → Except PatternError Unit
  | [] => .ok ()
  | n :: rest => do
    checkNode widths n
    checkNodes widths rest

/-- Checks the alternatives of a choice. -/
def checkAlternatives (widths : Array (Option Width)) :
    List (List Node) → Except PatternError Unit
  | [] => .ok ()
  | body :: rest => do
    checkNodes widths body
    checkAlternatives widths rest

end

/-- Reads a whole pattern. -/
def readPattern (fuel : Nat) : Reader (List Node) := do
  let nodes ← readBranch fuel false false []
  let r ← get
  if r.flags.ascii && r.flags.unicode then throw .flagConflict
  if !r.source.isAtEnd then fail "unbalanced parenthesis" 0
  match r.conditions.find? fun c => r.widths.size ≤ c.1 with
  | some (index, place) =>
    throw (.malformed ("invalid group reference " ++ Text.ofNat index) (some place))
  | none => return nodes

/-- The compiled form of a pattern text. -/
def parse (t : Text) (isText : Bool) : Except PatternError Compiled := do
  let source ← Source.ofText t isText
  let start : Reading :=
    { source, flags := {}, widths := #[none], names := [], lookBehindGroups := none,
      conditions := [] }
  let (nodes, r) ← (readPattern (4 * t.length + 8)).run start
  let flags := if isText && !r.flags.ascii then { r.flags with unicode := true } else r.flags
  checkNodes r.widths nodes
  return { nodes, flags, widths := r.widths, names := r.names, isText }

end ScriptHost.Pattern
