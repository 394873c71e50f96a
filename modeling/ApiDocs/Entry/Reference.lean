import ApiDocs.Entry.Types
import ApiDocs.Graph.Ancestry

/-!
# The reference of a module

Every type is shown in one of five collections: constructs, other classes, structs, interfaces and
enumerations.  Types are sorted by their simple names before they are told apart, and built in that
order, so each collection is sorted and diagnostics come in the order of the names.
-/

namespace ApiDocs

/-- The collection that shows a type, with what the type declares. -/
inductive Category where
  | ofConstruct (body : ClassBody)
  | ofClass (body : ClassBody)
  | ofStruct (body : InterfaceBody)
  | ofInterface (body : InterfaceBody)
  | ofEnum (body : EnumBody)

/-- The collection that shows a type. -/
def Graph.category (g : Graph) (t : TypeDecl) : Category :=
  match t.body with
  | .ofClass body => if g.isConstruct t then .ofConstruct body else .ofClass body
  | .ofInterface body => if body.isDatatype then .ofStruct body else .ofInterface body
  | .ofEnum body => .ofEnum body

/-- The entry of a type in the collection that shows it. -/
inductive TypeEntry where
  | ofConstruct (entry : ClassEntry)
  | ofClass (entry : ClassEntry)
  | ofStruct (entry : StructEntry)
  | ofInterface (entry : InterfaceEntry)
  | ofEnum (entry : EnumEntry)

/-- Build the entry of a type. -/
def TypeEntry.build (ctx : Context) (t : TypeDecl) : Build TypeEntry :=
  match ctx.graph.category t with
  | .ofConstruct body => .ofConstruct <$> ClassEntry.build ctx t body
  | .ofClass body => .ofClass <$> ClassEntry.build ctx t body
  | .ofStruct body => .ofStruct <$> StructEntry.build ctx t body
  | .ofInterface body => .ofInterface <$> InterfaceEntry.build ctx t body
  | .ofEnum body => return .ofEnum (EnumEntry.of ctx t body)

/-- What the reference of a module shows. -/
structure ReferenceEntry where
  title : String
  /-- The entries of all types, by simple name. -/
  types : List TypeEntry

namespace ReferenceEntry

/-- Build the reference of some types. -/
def build (ctx : Context) (types : List TypeDecl) : Build ReferenceEntry := do
  let entries ← (Name.sortOn TypeDecl.name types).mapM (TypeEntry.build ctx)
  return ⟨ctx.options.title, entries⟩

/-! ## Collections -/

/-- The constructs. -/
def constructs (e : ReferenceEntry) : List ClassEntry :=
  e.types.filterMap fun | .ofConstruct entry => some entry | _ => none

/-- The classes that are no constructs. -/
def classes (e : ReferenceEntry) : List ClassEntry :=
  e.types.filterMap fun | .ofClass entry => some entry | _ => none

/-- The interfaces without behaviour. -/
def structs (e : ReferenceEntry) : List StructEntry :=
  e.types.filterMap fun | .ofStruct entry => some entry | _ => none

/-- The other interfaces. -/
def interfaces (e : ReferenceEntry) : List InterfaceEntry :=
  e.types.filterMap fun | .ofInterface entry => some entry | _ => none

/-- The enumerations. -/
def enums (e : ReferenceEntry) : List EnumEntry :=
  e.types.filterMap fun | .ofEnum entry => some entry | _ => none

/-! ## The two outputs -/

/-- The section of a reference, with a group for each collection. -/
def toSection (e : ReferenceEntry) : Section :=
  { header := some { title := e.title }
    blocks :=
      (group "Constructs" (e.constructs.map (·.toSection))).asBlocks ++
        (group "Structs" (e.structs.map (·.toSection))).asBlocks ++
        (group "Classes" (e.classes.map (·.toSection))).asBlocks ++
        (group "Interfaces" (e.interfaces.map (·.toSection))).asBlocks ++
        (group "Enums" (e.enums.map (·.toSection))).asBlocks }

/-- The record of a reference. -/
def toRecord (e : ReferenceEntry) : ReferenceRecord where
  constructs := e.constructs.map (·.toRecord)
  classes := e.classes.map (·.toRecord)
  structs := e.structs.map (·.toRecord)
  interfaces := e.interfaces.map (·.toRecord)
  enums := e.enums.map (·.toRecord)

end ReferenceEntry

end ApiDocs
