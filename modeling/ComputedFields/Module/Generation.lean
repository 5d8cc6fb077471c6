import ComputedFields.Formula.Resolution
import ComputedFields.Module.Names
import ComputedFields.Module.Problem
import ComputedFields.Module.Sections
import ComputedFields.Target.Expression

/-!
# Generation of modules

- `ModuleContext.generate`: the getter of a field, with the problems met;
- `GeneratedModule`: the sections of a module with their getters;
- `GeneratedModule.source`: its text;
- `generateModule`: the module of a schema.

A field that cannot be generated becomes a stub, so every computed field has a getter.
-/

namespace ComputedFields

/-- What the getters of a module depend on. -/
structure ModuleContext where
  schema : Schema
  order : ComputationOrder
  options : GeneratorOptions
  names : ModuleNames

/-- A getter and the problems of its field. -/
structure GeneratedGetter where
  getter : Getter
  problems : List Problem

/-- The source and body of a getter, and the problems met. -/
structure GetterDraft where
  source : Option String
  body : GetterBody
  problems : List Problem

/-- A getter that could not be generated. -/
def GetterDraft.stub (source : Option String) (p : Problem) : GetterDraft := ⟨source, .stub p.message, [p]⟩

namespace ModuleContext

variable (ctx : ModuleContext)

def target : Target := ctx.options.target

/-! ## Formulas -/

/-- How a formula reads a field, given the code of the fields that can be inlined. Unknown fields are read as if they
were stored. -/
def access (inlined : List (String × String)) (r : FieldRef) : FieldAccess :=
  match ctx.schema.field? r.id with
  | none => .stored r.id
  | some f =>
    if !f.isComputed then .stored (ctx.options.recordKeys.key f)
    else if ctx.target.inlinesComputed then .inline ((inlined.lookup f.id).getD ctx.target.null)
    else
      match ctx.names.getter? f.id with
      | some getter => .computed getter
      | none => .stored (ctx.options.recordKeys.key f)

/-- Whether a formula needs a computed field for which there is no code. -/
def isNotInlined (inlined : List (String × String)) (id : String) : Bool :=
  (ctx.schema.field? id).any fun f => f.isComputed && (inlined.lookup id).isNone

/-- The fields that a formula needs and that cannot be inlined. -/
def notInlined (inlined : List (String × String)) (formula : Formula) : List Problem :=
  if ctx.target.inlinesComputed then (formula.fieldIds.filter (ctx.isNotInlined inlined)).map .notInlined else []

/-- The getter of a formula that can be read. -/
def formulaDraft (inlined : List (String × String)) (source : Option String) (formula : Formula) : GetterDraft :=
  let resolved := formula.resolve ctx.schema
  let expression := ExpressionContext.express ⟨ctx.target, ctx.access inlined, ctx.options.nullSafety⟩ resolved
  let met := resolved.unresolvedIds.map .unresolved ++ ctx.notInlined inlined resolved
  if expression.isClean then ⟨source, .expression expression.code, met⟩
  else
    ⟨source, .stub ("; ".intercalate (expression.warnings.map (·.message))),
      met ++ expression.warnings.map .generation⟩

/-! ## Links -/

/-- The getter of a field that reads through a link. -/
def linkDraft (f : Field) : GetterDraft :=
  let result := do
    let r ← LinkRead.ofField ctx.schema ctx.options.recordKeys ctx.names.getter? f
    let body ← ctx.target.linkBody r ctx.options.nullSafety
    return (r.description, body)
  match result with
  | .ok (description, body) => ⟨some description, body, []⟩
  | .error e => .stub none (.generation e)

/-! ## Fields -/

/-- The getter of a field, given the code of the fields that can be inlined. -/
def draft (inlined : List (String × String)) (f : Field) : GetterDraft :=
  match ctx.order.cycleOf? f.id with
  | some cycle => .stub f.formulaText? (.cycle cycle)
  | none =>
    if ctx.order.isBlocked f.id then .stub f.formulaText? .behindCycle
    else
      match f.computedKind? with
      | none => .stub f.formulaText? .notComputed
      | some .formula =>
        match f.formula? with
        | none => .stub none (.generation (.missingOption f.id .formula))
        | some (.error e) => .stub f.formulaText? (.formula e)
        | some (.ok formula) => ctx.formulaDraft inlined f.formulaText? formula
      | some _ => ctx.linkDraft f

def generate (inlined : List (String × String)) (f : Field) : GeneratedGetter :=
  let d := ctx.draft inlined f
  { getter :=
      { name := (ctx.names.getter? f.id).getD f.id
        fieldId := f.id
        fieldName := f.name
        source := d.source
        depth := ctx.order.depth? f.id
        body := d.body }
    problems := d.problems }

/-- The code that can be inlined after a getter. -/
def inlineAfter (inlined : List (String × String)) (g : Getter) : List (String × String) :=
  match g.body with
  | .expression code => (g.fieldId, "(" ++ code ++ ")") :: inlined
  | _ => inlined

/-- The getters of a section, one after the other. -/
def generateAll (inlined : List (String × String)) : List Field → List GeneratedGetter
  | [] => []
  | f :: fs =>
    let g := ctx.generate inlined f
    g :: generateAll (inlineAfter inlined g.getter) fs

/-! ## Tables -/

/-- The table that a field is read from through its link. -/
def linkedTable? (f : Field) : Option Table :=
  (f.linkId?.bind ctx.schema.linkedTable?).or (f.targetId?.bind ctx.schema.tableOf?)

/-- The tables that are read through links, each once, in the order of their first use. -/
def linkedTables : List Table :=
  ((ctx.schema.computedFields.filter (·.computedKind? != some .formula)).filterMap ctx.linkedTable?).eraseDups

end ModuleContext

/-- The getters of a section. -/
structure GeneratedSection where
  table : Table
  identifier : String
  getters : List GeneratedGetter

structure GeneratedModule where
  options : GeneratorOptions
  linkedTables : List Table
  sections : List GeneratedSection
  order : ComputationOrder

namespace GeneratedModule

/-- All getters in the order in which they are written. -/
def getters (m : GeneratedModule) : List GeneratedGetter := m.sections.flatMap (·.getters)

/-- The problems of all fields, in the order in which the getters are written. -/
def diagnostics (m : GeneratedModule) : List Diagnostic :=
  m.getters.flatMap fun g => g.problems.map fun p => ⟨g.getter.fieldId, g.getter.fieldName, p⟩

def diagnosticsFor (m : GeneratedModule) (fieldId : String) : List Diagnostic :=
  m.diagnostics.filter (·.fieldId == fieldId)

def hasErrors (m : GeneratedModule) : Bool := m.diagnostics.any (·.severity == .error)

def sectionText (m : GeneratedModule) (s : GeneratedSection) : String :=
  m.options.target.beginTable s.table s.identifier ++
    String.join (s.getters.map fun g => m.options.target.getter m.options g.getter) ++
    m.options.target.endTable m.options s.table

/-- The text of the module. -/
def source (m : GeneratedModule) : String :=
  m.options.target.preamble m.options m.linkedTables ++ String.join (m.sections.map m.sectionText) ++
    m.options.target.epilogue (m.getters.map (·.getter.name))

/-- The files of the module, by name; there is only one. -/
def files (m : GeneratedModule) : List (String × String) := [(m.options.fileName, m.source)]

def file? (m : GeneratedModule) (name : String) : Option String := m.files.lookup name

end GeneratedModule

/-- The sections of a module with their getters. -/
def ModuleContext.sections (ctx : ModuleContext) : List GeneratedSection :=
  (Section.ofSchema ctx.schema ctx.order ctx.target).map fun s =>
    ⟨s.table, ctx.names.table s.table.id, ctx.generateAll [] s.fields⟩

/-- The module of a schema whose order of computation is known. -/
def generateInOrder (s : Schema) (order : ComputationOrder) (options : GeneratorOptions) : GeneratedModule :=
  let ctx : ModuleContext := ⟨s, order, options, ModuleNames.ofSchema s options⟩
  ⟨options, ctx.linkedTables, ctx.sections, order⟩

/-- The module of a schema. -/
def generateModule (s : Schema) (options : GeneratorOptions) : GeneratedModule :=
  generateInOrder s (DependencyGraph.ofSchema s).order options

end ComputedFields
