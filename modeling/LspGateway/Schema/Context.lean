import LspGateway.Schema.Resolver
import LspGateway.Schema.Violation

/-! # Schemas applied to values

A schema is checked in the context of the one it stands in, or of the one that a reference
to it stands in. The draft of the context tells where to look for its keywords, and the
draft that it is written in tells what they mean.
-/

namespace LspGateway.Schema

/-- What a schema is checked with. -/
structure Context where
  draft : Draft
  /-- Formats are not only notes. -/
  formats : Bool
  resolver : Resolver
  deriving Repr

/-- A check of a value against a schema, whose keywords are those of a draft. -/
abbrev Checker := Draft → Context → Json → Json → Report

namespace Context

/-- The context of a schema for itself. -/
def ofSchema (c : Context) (schema : Json) : Except Breakdown Context := do
  pure { c with draft := ← Draft.ofSchema schema c.draft }

/-- The context of a schema that a reference leads to. -/
def ofResolved (c : Context) (found : Resolved) : Except Breakdown Context :=
  { c with resolver := found.resolver }.ofSchema found.contents

/-- Checks a part of a value against another schema. A schema that is a truth value does
not tell where it stands. -/
def descendTo (c : Context) (check : Checker) (path schemaPath : Option Step)
    (resolver : Except Breakdown Resolver) (schema value : Json) : Report :=
  match schema with
  | .bool _ => check c.draft c schema value
  | schema => .ofExcept do
    let inner ← { c with resolver := ← resolver }.ofSchema schema
    pure ((check c.draft inner schema value).within path schemaPath)

/-- Checks a part of a value against a schema within the schema. -/
def descend (c : Context) (check : Checker) (path schemaPath : Option Step)
    (schema value : Json) : Report :=
  c.descendTo check path schemaPath (c.resolver.inside ⟨c.draft, schema⟩) schema value

/-- Checks a value against the schema that a reference leads to. -/
def descendInto (c : Context) (check : Checker) (found : Resolved) (value : Json) : Report :=
  c.descendTo check none none (.ok found.resolver) found.contents value

/-- Whether a value passes a schema that is taken for itself. -/
def passes (c : Context) (check : Checker) (schema value : Json) : Except Breakdown Bool := do
  let inner ← c.ofSchema schema
  (check inner.draft inner schema value).passes

end Context

/-- How the schemas within a schema are applied. -/
structure Inside where
  /-- Checks a part of the value, given the steps to it and to the schema. -/
  descend : Option Step → Option Step → Json → Json → Report
  /-- Whether a value passes a schema that is taken for itself. -/
  passes : Json → Json → Except Breakdown Bool

/-- How the schemas within the schema of a context are applied. -/
def Context.inside (c : Context) (check : Checker) : Inside :=
  ⟨c.descend check, c.passes check⟩

/-- Whether a part of a value passes a schema within the schema. -/
def Inside.holds (i : Inside) (schema value : Json) : Except Breakdown Bool :=
  (i.descend none none schema value).passes

end LspGateway.Schema
