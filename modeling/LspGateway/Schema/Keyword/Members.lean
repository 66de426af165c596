import LspGateway.Schema.Context
import LspGateway.Schema.Place

/-! # Keywords for the members of objects

Schemas for the members of an object by their names, by patterns of their names, or for
all that nothing else is said of; schemas for the names; and schemas for the whole object
if it has some member.
-/

namespace LspGateway.Schema.Place

/-- Checks the members that the keyword names. In the first draft the schema of a member
tells whether the member must be there. -/
def properties (p : Place) (inside : Inside) : Report :=
  match p.value with
  | .obj ms => .ofExcept do
    let subs ← ofMisuse p.setting.asMembers
    pure (.flatMap subs fun (k, sub) =>
      match Json.Members.get? ms k with
      | some v => inside.descend (some (.member k)) (some (.member k)) sub v
      | none =>
        if p.draft = .draft3 then .ofExcept do
          let settings ← ofMisuse sub.asObject
          let v := p.violation (Text.quoted k ++ " is a required property") []
          if (Json.Members.get? settings "required").any Json.truthy then
            pure (.ofViolation { v with path := [.member k], keyword := some "required" })
          else pure .clean
        else .clean)
  | _ => .clean

/-- Checks the members whose names match a pattern. -/
def patternProperties (p : Place) (inside : Inside) : Report :=
  match p.value with
  | .obj ms => .ofExcept do
    let subs ← ofMisuse p.setting.asMembers
    pure (.flatMap subs fun (pattern, sub) =>
      .flatMap ms fun (k, v) => .ofExcept do
        if ← matchesText pattern k then
          pure (inside.descend (some (.member k)) (some (.member pattern)) sub v)
        else pure .clean)
  | _ => .clean

/-- The members that the schema neither names nor has a pattern for. -/
def extraMembers (p : Place) (ms : Json.Members) : Except Breakdown Json.Members := do
  let named := (p.other? "properties").getD (.obj [])
  let pattern ← ofMisuse (((p.other? "patternProperties").getD (.obj [])).joinedBy "|")
  ms.filterM fun (k, _) => do
    if ← ofMisuse (named.holdsText k) then pure false
    else if pattern = "" then pure true
    else pure !(← matchesText pattern k)

/-- The patterns that the schema has for names, if it has that keyword. -/
def namePatterns? (p : Place) : Except Breakdown (Option (List String)) :=
  match p.other? "patternProperties" with
  | none => .ok none
  | some patterns => do pure (some ((← ofMisuse patterns.asItems).filterMap Json.str?))

/-- Checks the members that the schema has nothing else for. -/
def additionalProperties (p : Place) (inside : Inside) : Report :=
  match p.value with
  | .obj ms => .ofExcept do
    let extra ← p.extraMembers ms
    let names := (sorted (extra.map (·.1))).map Text.quoted
    match p.setting with
    | .obj sub =>
      pure (.flatMap extra fun (k, v) => inside.descend (some (.member k)) none (.obj sub) v)
    | setting =>
      if setting.truthy || extra.isEmpty then pure .clean
      else
        match ← p.namePatterns? with
        | some patterns =>
          pure (p.fault (String.intercalate ", " names ++
            (if extra.length = 1 then " does" else " do") ++ " not match any of the regexes: " ++
            String.intercalate ", " ((sorted patterns).map Text.quoted)))
        | none =>
          pure (p.fault
            ("Additional properties are not allowed (" ++ namesWereUnexpected names ++ ")"))
  | _ => .clean

/-- Checks the names of members. -/
def propertyNames (p : Place) (inside : Inside) : Report :=
  match p.value with
  | .obj ms => .flatMap ms fun (k, _) => inside.descend none none p.setting (.str k)
  | _ => .clean

/-- Checks an object against the schemas that its members bring with them. -/
def dependentSchemas (p : Place) (inside : Inside) : Report :=
  match p.value with
  | .obj ms => p.eachPresent ms fun k sub => inside.descend none (some (.member k)) sub p.value
  | _ => .clean

/-- Checks what the members of an object depend on: other members or a schema. -/
def dependencies (p : Place) (inside : Inside) : Report :=
  match p.value with
  | .obj ms => p.eachPresent ms fun k sub =>
    let wholly := inside.descend none (some (.member k)) sub p.value
    let onAll : Report := .ofExcept do pure (p.needs ms k (← ofMisuse sub.asItems))
    if p.draft = .draft3 then
      match sub with
      | .obj _ => wholly
      | .str _ => p.needs ms k [sub]
      | _ => onAll
    else
      match sub with
      | .arr _ => onAll
      | _ => wholly
  | _ => .clean

/-- Checks the members that nothing else in the schema covers. One is named as often as
something is wrong with it. -/
def unevaluatedProperties (p : Place) (inside : Inside)
    (covered : Json.Members → Except Breakdown (List String)) : Report :=
  match p.value with
  | .obj ms => .ofExcept do
    let keys ← covered ms
    let found ← (ms.filter fun (k, _) => !keys.contains k).mapM fun (k, v) => do
      pure ((← (inside.descend none none p.setting v).all).map fun _ => k)
    match found.flatten with
    | [] => pure .clean
    | names =>
      if p.setting = .bool false then
        pure (p.fault ("Unevaluated properties are not allowed (" ++
          namesWereUnexpected ((sorted names).map Text.quoted) ++ ")"))
      else
        pure (p.fault ("Unevaluated properties are not valid under the given schema (" ++
          namesWere (names.map Text.quoted) "unevaluated and invalid" ++ ")"))
  | _ => .clean

end LspGateway.Schema.Place
