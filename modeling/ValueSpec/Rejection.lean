import ValueSpec.Catalog
import ValueSpec.Json

namespace ValueSpec

/-- Why a value was refused. -/
structure Rejection where
  code : Code
  value : String
  params : Params := []
  validator : String := ""
  causes : List Rejection := []

namespace Rejection

mutual

/-- The message of a rejection. The reasons of a combined one are the messages of its causes. -/
def render (cat : Catalog) : Rejection → Except Fault String
  | ⟨code, value, params, _, causes⟩ => do
    let params : Params := Record.overlay [("value", .text value)] params
    if code = .combinedFailed then
      let reasons ← renderAll cat causes
      cat.format code (params.set "reasons" (.text (" OR ".intercalate reasons)))
    else cat.format code params

def renderAll (cat : Catalog) : List Rejection → Except Fault (List String)
  | [] => .ok []
  | r :: rest => do
    let text ← r.render cat
    let texts ← renderAll cat rest
    return text :: texts

end

mutual

/-- The document of a rejection; its parameters are entries of their own. -/
def document (cat : Catalog) : Rejection → Except Fault (Record Json)
  | ⟨code, value, params, validator, causes⟩ => do
    let message ← render cat ⟨code, value, params, validator, causes⟩
    let head : Record Json :=
      [("code", .text code.name), ("key", .text code.key), ("validator", .text validator),
        ("value", .text value), ("message", .text message)]
    let fields := head.overlay (params.mapValues Json.ofValue)
    let inner ← documents cat causes
    return if causes.isEmpty then fields else fields.set "sub_failures" (.array inner)

def documents (cat : Catalog) : List Rejection → Except Fault (List Json)
  | [] => .ok []
  | r :: rest => do
    let fields ← r.document cat
    let others ← documents cat rest
    return .object fields :: others

end

end Rejection

inductive Outcome
  | accepted
  | rejected (why : Rejection)

namespace Outcome

def isAccepted : Outcome → Bool
  | accepted => true
  | rejected _ => false

def rejection? : Outcome → Option Rejection
  | accepted => none
  | rejected why => some why

/-- The document of an outcome: whether the value is valid, and if not why. -/
def document (cat : Catalog) : Outcome → Except Fault (Record Json)
  | accepted => .ok [("valid", .bool true)]
  | rejected why => do
    let fields ← why.document cat
    return Record.overlay [("valid", .bool false)] fields

end Outcome

end ValueSpec
