import SceneBridge.Datum.Printer
import SceneBridge.Datum.Truth
import SceneBridge.Doc.Block
import SceneBridge.Entries
import SceneBridge.Fault
import SceneBridge.Reflect.ClassView
import SceneBridge.Reflect.Metadata
import SceneBridge.Text.Outdent

/-!
# Extraction of metadata

From the views of a class and of those that it inherits from, and from the attributes
of an instance, to the metadata of the class. What is said about a name is taken from
the nearest class that says it: first the table of the class, then the documentation of
the member, then the note behind its assignment.
-/

namespace SceneBridge

open Text

namespace Subject

variable {V : Type}

/-! ## What the classes say about a name -/

/-- The entry for a name in the nearest table that has one. A text is documentation. -/
def tableEntry (s : Subject V) (name : String) : List (String × Datum) :=
  match (s.classes.findSome? fun c => c.table.lookup name : Option Datum) with
  | some (.text t) => [("doc", .text t)]
  | some (.record es) => es
  | _ => []

/-- The note behind the assignment of a name in the nearest class that has one. -/
def note? (s : Subject V) (name : String) : Option String :=
  s.classes.findSome? fun c => c.notes.lookup name

/-- The annotation of a name in the nearest class that has one. -/
def annotation? (s : Subject V) (name : String) : Option Annotation :=
  s.classes.findSome? fun c => c.annotations.lookup name

/-- The documentation block of a datum; a datum that counts as no says nothing. -/
def blockOf (read : String → TypeExpr) (d : Datum) : Except Fault DocBlock :=
  match d with
  | .text t => .ok (DocBlock.ofText read t)
  | d =>
    match d.truth? with
    | some false => .ok .empty
    | some true => .error (.noAttribute "object" "splitlines")
    | none => .error .ambiguousTruth

/-- The documentation block of a name whose member has the documentation `own`. -/
def block (s : Subject V) (read : String → TypeExpr) (name : String) (own : Option String) :
    Except Fault DocBlock :=
  match ((s.tableEntry name).lookup "doc").getD .null with
  | .null =>
    match own <|> s.note? name with
    | some doc => .ok (DocBlock.ofText read doc)
    | none => .ok .empty
  | d => blockOf read d

/-- The text of an entry, unless it counts as no. -/
def entryText? (s : Subject V) (name key : String) : Except Fault (Option String) :=
  match (s.tableEntry name).lookup key with
  | none => .ok none
  | some d =>
    match d.truth? with
    | some false => .ok none
    | some true => if d.isWritable then .ok (some d.plain) else .error .unwritten
    | none => .error .ambiguousTruth

/-- The declared type of a name: from the table, from its documentation, or its annotation. -/
def declaredType? (s : Subject V) (read : String → TypeExpr) (name : String) (b : DocBlock) :
    Except Fault (Option TypeExpr) := do
  match ← s.entryText? name "type" with
  | some t => return some (read t)
  | none =>
    match b.first? "type" with
    | some tag => return some tag.type
    | none => return (s.annotation? name).bind (·.type? read)

/-- The description of a name: from the table, from its type tag, or the summary. -/
def description (s : Subject V) (name : String) (b : DocBlock) : Except Fault String := do
  match ← s.entryText? name "description" with
  | some t => return t
  | none =>
    match b.first? "type" with
    | some tag => return if tag.description.isEmpty then b.summary else tag.description
    | none => return b.summary

end Subject

/-! ## What documentation says -/

/-- The first word of a description. -/
def nameIn (description : String) : String :=
  String.ofList (firstWord description.toList)

/-- The events of a table and of the event tags of a block. A later type replaces an earlier one. -/
def addEvents (events : List (String × EventInfo)) (b : DocBlock) : List (String × EventInfo) :=
  (b.all "event").foldl (fun events tag =>
    let name := nameIn tag.description
    if name.isEmpty then events else Entries.put events name ⟨name, tag.type⟩) events

/-- What is known of a routine: from its documentation, and where that is silent from its
declaration. -/
def MethodInfo.ofRoutine (read : String → TypeExpr) (name : String) (view : RoutineView)
    (b : DocBlock) : MethodInfo :=
  let tags := b.all "param"
  let returnTag := (b.first? "returns") <|> (b.first? "return")
  let (names, types) :=
    if tags.isEmpty then
      (view.params.map (·.1),
        view.params.map fun (_, a) => (a.bind (·.type? read)).getD .any)
    else (tags.map (nameIn ·.description), tags.map (·.type))
  let returns := (returnTag.map (·.type)) <|> view.returns.bind (·.type? read)
  ⟨name, names, types, returns.getD .any⟩

/-! ## Members -/

/-- Is the name hidden from reflection? -/
def isPrivate (name : String) : Bool :=
  name.startsWith "_"

/-- The entries with a name that no earlier entry has. -/
def firstOfEach {α : Type} : List (String × α) → List (String × α)
  | [] => []
  | (k, a) :: es => (k, a) :: (firstOfEach es).filter fun (j, _) => !(j == k)

namespace Subject

variable {V : Type}

/-- The members that the classes show, the nearest one of each name. -/
def members (s : Subject V) : List (String × MemberView V) :=
  firstOfEach ((s.classes.flatMap (·.members)).filter fun (k, _) => !isPrivate k)

/-- The metadata with what one member of the classes adds. Members that an attribute of the
instance hides are left to the instance. -/
def addMember (s : Subject V) (read : String → TypeExpr) (md : Metadata V) (name : String)
    (member : MemberView V) : Except Fault (Metadata V) :=
  match member with
  | .accessor hasGetter hasSetter doc => do
    let b ← s.block read name doc
    let type ← s.declaredType? read name b
    return { md with
      computed := md.computed ++ [(name, ⟨name, hasGetter, hasSetter, type.getD .any⟩)]
      events := addEvents md.events b }
  | .routine view doc => do
    let b ← s.block read name doc
    return { md with
      methods := md.methods ++ [(name, .ofRoutine read name view b)]
      events := addEvents md.events b }
  | .slot => return md
  | .shared value => addStatic "function" value
  | .constant kind value => addStatic kind value
where
  /-- The metadata with a static member. -/
  addStatic (kind : String) (value : V) : Except Fault (Metadata V) := do
    if Entries.has s.attributes name then return md
    let b ← s.block read name none
    let description ← s.description name b
    return { md with
      statics := md.statics ++ [(name, ⟨name, kind, value, description⟩)]
      events := addEvents md.events b }

/-- The metadata with what one attribute of the instance adds. -/
def addAttribute (s : Subject V) (read : String → TypeExpr) (md : Metadata V) (name : String)
    (view : AttributeView) : Except Fault (Metadata V) := do
  if isPrivate name || Entries.has md.computed name then return md
  let b ← s.block read name none
  let md := { md with events := addEvents md.events b }
  match view with
  | .routine r => return { md with methods := Entries.put md.methods name (.ofRoutine read name r b) }
  | .value kind =>
    let type ← s.declaredType? read name b
    let description ← s.description name b
    return { md with
      properties := Entries.put md.properties name
        ⟨name, type.getD (.scalar kind), description⟩ }

/-- The events in the documentation of the classes, those of the furthest class first. -/
def classEvents (s : Subject V) (read : String → TypeExpr) : List (String × EventInfo) :=
  (s.classes.reverse.filterMap (·.doc)).foldl
    (fun events doc => addEvents events (DocBlock.ofText read (outdentText doc))) []

/-- The metadata of a subject, types being read by `read`. -/
def extract (s : Subject V) (read : String → TypeExpr) : Except Fault (Metadata V) := do
  let md := { Metadata.empty with events := s.classEvents read }
  let md ← s.members.foldlM (fun md (name, member) => s.addMember read md name member) md
  s.attributes.foldlM (fun md (name, view) => s.addAttribute read md name view) md

end Subject

end SceneBridge
