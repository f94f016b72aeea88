import ScriptHost.Json.Reader
import ScriptHost.Service.Origins

/-!
# Requests and responses

What the service takes and gives, and the check of a request body against the fields that a route
wants.
-/

namespace ScriptHost.Service

/-- A request. -/
structure Request where
  method : Text
  path : Text
  headers : List (Text × Text)
  body : Text

namespace Request

/-- A letter in lower case, ASCII only. -/
def lowered (c : CodePoint) : CodePoint :=
  if 0x41 ≤ c.val && c.val ≤ 0x5A then CodePoint.ofNat (c.val + 0x20) else c

/-- A letter in upper case, ASCII only. -/
def raised (c : CodePoint) : CodePoint :=
  if 0x61 ≤ c.val && c.val ≤ 0x7A then CodePoint.ofNat (c.val - 0x20) else c

/-- A header by its name in lower case. -/
def header? (r : Request) (name : Text) : Option Text :=
  (r.headers.find? fun h => h.1.map lowered == name).map (·.2)

/-- The method in upper case. -/
def verb (r : Request) : Text := r.method.map raised

/-- The path without query and fragment. -/
def location (r : Request) : Text :=
  let path := r.path.takeWhile fun c => c.ascii != '?' && c.ascii != '#'
  if path.isEmpty then "/" else path

/-- The media type of the body in lower case. -/
def mediaType (r : Request) : Text :=
  let value := (r.header? "content-type").getD []
  Unicode.trim ((value.takeWhile fun c => c.ascii != ';').map lowered)

/-- Whether the body is declared as JSON. -/
def declaresJson (r : Request) : Bool :=
  match Text.splitOn (CodePoint.ofChar '/') r.mediaType with
  | [main, sub] =>
    main == "application" && (sub == "json" || Text.startsWith sub.reverse ("nosj+" : String))
  | _ => false

end Request

/-- What a response carries. -/
inductive Content
  | json (v : HostValue)
  | text (t : Text)

/-- A response. -/
structure Response where
  status : Nat
  content : Content

namespace Response

/-- A response with a single detail. -/
def detail (status : Nat) (t : Text) : Response :=
  { status, content := .json (.ofFields [("detail", .str t)]) }

/-- The response to a fault inside the service. -/
def internalError : Response := { status := 500, content := .text "Internal Server Error" }

end Response

/-! ## Bodies -/

/-- The body of a request. -/
inductive Body
  | absent
  | json (v : HostValue)
  /-- A JSON text that goes wrong at a position. -/
  | malformed (position : Nat)
  /-- A JSON text with a number that is too long to be read. -/
  | unreadable
  /-- A body that is not declared as JSON. -/
  | foreign

/-- The mark that may open a text. -/
def byteOrderMark : CodePoint := CodePoint.ofNat 0xFEFF

/-- The body of a request as the routes see it. -/
def Request.readBody (r : Request) : Body :=
  if r.body.isEmpty then .absent
  else if !r.declaresJson then .foreign
  else
    let text := if r.body.head? == some byteOrderMark then r.body.tail else r.body
    match Json.read text with
    | .ok .none => .absent
    | .ok v => .json v
    | .error (.jsonSyntax _ _ _ position) => .malformed position
    | .error _ => .unreadable

/-- What is wrong with a part of a body. -/
inductive Complaint
  | missing
  | notText
  | notList
  | notObject
  | notJson
deriving DecidableEq

namespace Complaint

/-- The kind of a complaint, as answers name it. -/
def kind : Complaint → String
  | missing => "missing"
  | notText => "string_type"
  | notList => "list_type"
  | notObject => "model_attributes_type"
  | notJson => "json_invalid"

/-- A complaint in words. -/
def message : Complaint → String
  | missing => "Field required"
  | notText => "Input should be a valid string"
  | notList => "Input should be a valid list"
  | notObject => "Input should be a valid dictionary or object to extract fields from"
  | notJson => "JSON decode error"

end Complaint

/-- A complaint with the place in the request that it is about. -/
structure Finding where
  place : List HostValue
  complaint : Complaint

/-- The response to a request with findings. -/
def Response.ofFindings (findings : List Finding) : Response :=
  let shown (f : Finding) : HostValue :=
    .ofFields [("type", .ofString f.complaint.kind), ("loc", .list f.place),
      ("msg", .ofString f.complaint.message)]
  { status := 422, content := .json (.ofFields [("detail", .list (findings.map shown))]) }

/-- What a field of a body has to be. -/
inductive FieldType
  | text
  | list
deriving DecidableEq

/-- A field that a route wants, with the value that stands for a missing one. -/
structure FieldSpec where
  name : String
  type : FieldType
  default : Option HostValue

/-- The complaint about the value of a field. -/
def FieldType.complaint? (type : FieldType) (v : HostValue) : Option Complaint :=
  match type, v with
  | .text, .str _ => none
  | .text, _ => some .notText
  | .list, .list _ => none
  | .list, _ => some .notList

/-- Checks one field of an object. -/
def FieldSpec.check (f : FieldSpec) (body : HostValue) : Except Finding HostValue :=
  let place : List HostValue := [.ofString "body", .ofString f.name]
  match body.lookup? f.name, f.default with
  | some v, _ =>
    match f.type.complaint? v with
    | none => .ok v
    | some complaint => .error { place, complaint }
  | none, some v => .ok v
  | none, none => .error { place, complaint := .missing }

/-- The values of the fields of an object, or all that is wrong with them. -/
def checkFields (body : HostValue) : List FieldSpec → Except (List Finding) (List HostValue)
  | [] => .ok []
  | f :: rest =>
    match f.check body, checkFields body rest with
    | .ok v, .ok vs => .ok (v :: vs)
    | .ok _, .error es => .error es
    | .error e, .ok _ => .error [e]
    | .error e, .error es => .error (e :: es)

/-- The values of the fields of a body, or the response that refuses it. -/
def Body.fields (fields : List FieldSpec) : Body → Except Response (List HostValue)
  | .absent => .error (.ofFindings [{ place := [.ofString "body"], complaint := .missing }])
  | .malformed position =>
    .error (.ofFindings [{ place := [.ofString "body", .int position], complaint := .notJson }])
  | .unreadable => .error (.detail 400 "There was an error parsing the body")
  | .foreign => .error (.ofFindings [{ place := [.ofString "body"], complaint := .notObject }])
  | .json (.dict es) =>
    match checkFields (.dict es) fields with
    | .ok vs => .ok vs
    | .error findings => .error (.ofFindings findings)
  | .json _ => .error (.ofFindings [{ place := [.ofString "body"], complaint := .notObject }])

/-! ## Answers -/

mutual

/-- A value as a response can carry it: numbers without a JSON form become nothing. A text with a
surrogate cannot be carried. -/
def carried : HostValue → Option HostValue
  | .float x => some (if x.isNaN || x.isInf then .none else .float x)
  | .str t => if t.any (·.isSurrogate) then none else some (.str t)
  | .list xs => (carriedItems xs).map .list
  | .dict es => (carriedEntries es).map .dict
  | v => some v

/-- Items as a response can carry them. -/
def carriedItems : List HostValue → Option (List HostValue)
  | [] => some []
  | v :: rest => do return (← carried v) :: (← carriedItems rest)

/-- Entries as a response can carry them. -/
def carriedEntries : List (HostValue × HostValue) → Option (List (HostValue × HostValue))
  | [] => some []
  | (k, v) :: rest => do return (← carried k, ← carried v) :: (← carriedEntries rest)

end

/-- The response that carries a value. -/
def Response.carrying (v : HostValue) : Response :=
  match carried v with
  | some v => { status := 200, content := .json v }
  | none => .internalError

end ScriptHost.Service
