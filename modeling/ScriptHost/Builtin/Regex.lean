import ScriptHost.Host.Hashable
import ScriptHost.Host.Fault
import ScriptHost.Pattern.Spans

/-!
# Built-in module: regex

Pattern matching for scripts.  `RegexMethod.call` applies a method to host values: first the number
of arguments is checked, then the pattern, then a replacement, and the text last.
-/

namespace ScriptHost

open Pattern

/-- What patterns are matched against: a text or bytes. -/
structure Subject where
  points : Array CodePoint
  isText : Bool

namespace Subject

/-- The subject that a value is. -/
def ofValue? (v : HostValue) : Option Subject :=
  match v with
  | .str t | .strMember t => some { points := t.toArray, isText := true }
  | .bytes bs => some { points := (bs.map fun b => CodePoint.ofNat b.toNat).toArray, isText := false }
  | _ => none

/-- A part of a subject as a value of its kind. -/
def value (s : Subject) (t : Text) : HostValue :=
  if s.isText then .str t else .bytes (t.map fun c => c.val.toUInt8)

/-- A part of a subject, or nothing. -/
def optional (s : Subject) : Option Text → HostValue
  | some t => s.value t
  | none => .none

end Subject

namespace RegexMethod

/-- The fault of a pattern error in a text. -/
def patternFault (t : Text) (e : PatternError) : Fault :=
  let cls : FaultClass :=
    match e with
    | .malformed _ _ => .pattern
    | .countTooLarge => .overflow
    | .unknownName _ => .index
    | .flagConflict => .value
  .worded cls (e.message t)

/-- A type fault with its wording. -/
def typeFault (message : String) : Fault := .worded .type (Text.ofString message)

/-- The compiled form of a pattern value. -/
def compile (v : HostValue) : Except Fault Compiled := do
  v.checkHashable
  match Subject.ofValue? v with
  | none => throw (typeFault "first argument must be string or compiled pattern")
  | some s =>
    let t := s.points.toList
    match parse t s.isText with
    | .ok p => return p
    | .error e => throw (patternFault t e)

/-- The subject of a text value, of the kind that the pattern wants. -/
def subjectFor (p : Compiled) (v : HostValue) : Except Fault Subject :=
  match Subject.ofValue? v with
  | none =>
    .error (typeFault ("expected string or bytes-like object, got '" ++ v.typeName ++ "'"))
  | some s =>
    if p.isText && !s.isText then
      .error (typeFault "cannot use a string pattern on a bytes-like object")
    else if !p.isText && s.isText then
      .error (typeFault "cannot use a bytes pattern on a string-like object")
    else .ok s

/-- What a replacement value stands for. -/
inductive Replacement
  | pieces (ps : List Piece)
  /-- A replacement of the other kind, which is refused at the first match. -/
  | mismatched

/-- The template of a replacement value. -/
def replacementFor (p : Compiled) (v : HostValue) : Except Fault Replacement := do
  match Subject.ofValue? v with
  | some s =>
    let t := s.points.toList
    let pieces ←
      if t.any (·.ascii == '\\') then
        match parseTemplate p t with
        | .ok pieces => pure pieces
        | .error e => throw (patternFault t e)
      else pure [.literal t]
    return if s.isText == p.isText then .pieces pieces else .mismatched
  | none =>
    v.checkHashable
    throw (typeFault ("decoding to str: need a bytes-like object, " ++ v.typeName ++ " found"))

/-- The text with all matches replaced. -/
def replaced (p : Compiled) (s : Subject) : Replacement → Except Fault HostValue
  | .pieces ps => .ok (s.value (p.replaceAll s.points ps))
  | .mismatched =>
    match p.allMatches s.points with
    | [] => .ok (s.value s.points.toList)
    | m :: _ =>
      let index := if m.start = 0 then "0" else "1"
      .error (typeFault ("sequence item " ++ index ++ ": expected "
        ++ (if s.isText then "str instance, bytes" else "a bytes-like object, str") ++ " found"))

/-- A method applied to a pattern, a text and a replacement. -/
def apply (m : RegexMethod) (pattern text replacement : HostValue) : Except Fault HostValue := do
  let p ← compile pattern
  match m with
  | test =>
    let s ← subjectFor p text
    return .bool (p.search? s.points 0 false).isSome
  | find =>
    let s ← subjectFor p text
    return s.optional ((p.search? s.points 0 false).map (·.text s.points))
  | findAll =>
    let s ← subjectFor p text
    return .list ((p.allMatches s.points).map fun found => s.value (found.text s.points))
  | groups =>
    let s ← subjectFor p text
    match p.search? s.points 0 false with
    | some found => return .list ((found.groupTexts s.points).map s.optional)
    | none => return .none
  | replace =>
    let r ← replacementFor p replacement
    let s ← subjectFor p text
    replaced p s r
  | split =>
    let s ← subjectFor p text
    return .list ((p.splitAll s.points).map s.optional)

/-- A method called with host values. -/
def call (m : RegexMethod) (args : List HostValue) : Except Fault HostValue :=
  let name := "RegexModule." ++ m.hostName
  let names := m.parameters
  if args.length < names.length then
    .error (.missingArguments name (names.drop args.length))
  else if names.length < args.length then
    .error (.excessArguments name (names.length + 1) 0 (args.length + 1))
  else
    match args with
    | pattern :: text :: rest => m.apply pattern text (rest.headD .none)
    | _ => .error (.missingArguments name names)

end RegexMethod

end ScriptHost
