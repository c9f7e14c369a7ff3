import WorkflowCompiler.Publish.Opaque
import WorkflowCompiler.Script.Artifact

/-!
Envelopes: what is sent along with the scripts. An envelope holds the specification, and apart
from it the queries, descriptions and documentation of its tasks.
-/
namespace WorkflowCompiler.Publish

open Json (Value Members Record)
open Script (BuildError)
open Workflow (Spec Task)

/-- The name of this program as a client of the service. -/
def clientType : String := "dagen"

/-- The members of `sql`, `shortDescriptions` and `docs` are texts, by task id. -/
structure Envelope where
  /-- The query of each query task, in base64. -/
  sql : Members
  shortDescriptions : Members
  /-- The documentation of each task whose file could be read. -/
  docs : Members
  account : Value
  environment : String
  /-- The specification, with the documentation itself where it names a file. -/
  configuration : Value
  configurationType : String
  configurationId : String
  clientType : String
  clientVersion : String

structure TaskEntry where
  task : Task
  shortDescription : Option String
  documentation : Option String
  sql : Option ByteArray

namespace TaskEntry

/-- The query of a query task; it cannot be missing. -/
def sqlOf (files : Files.Tree) (spec : Spec) (task : Task) :
    Except BuildError (Option ByteArray) :=
  if task.kind = .query then do
    let p ← task.queryParameters.mapError fun m => .taskFailed task.id m.message
    let path := spec.resolve p.sqlFile
    let body ← (files.readBytes path).mapError fun fault =>
      .taskFailed task.id ("cannot read SQL file " ++ path ++ ": " ++ fault.message)
    .ok (some body)
  else .ok none

/-- Documentation that cannot be read counts as none. -/
def documentationOf (files : Files.Tree) (spec : Spec) (task : Task) : Option String :=
  task.docFile.bind fun path => (files.readText (spec.resolve path)).toOption

/-- The task as the envelope states it: documentation takes the place of its file's name, and a
query says whether its table is temporary. -/
def stated (task : Task) (documentation : Option String) : Task :=
  { task with
    docFile := documentation <|> task.docFile
    temporaryTable :=
      if task.kind = .query then some (task.temporaryTable.getD false) else task.temporaryTable }

def ofTask (files : Files.Tree) (spec : Spec) (task : Task) : Except BuildError TaskEntry := do
  let sql ← sqlOf files spec task
  let documentation := documentationOf files spec task
  .ok {
    task := stated task documentation
    shortDescription := task.shortDescription.map Text.trim
    documentation
    sql }

end TaskEntry

namespace Envelope

def textsOf (part : TaskEntry → Option String) (entries : List TaskEntry) : Members :=
  Members.ofList (entries.filterMap fun e => (part e).map fun s => (e.task.id, .text s))

/-- The envelope of a specification. The first query task without its query ends the work. -/
def ofSpec (files : Files.Tree) (spec : Spec) : Except BuildError Envelope := do
  let entries ← spec.tasks.mapM (TaskEntry.ofTask files spec)
  .ok {
    sql := textsOf (·.sql.map fun body => String.ofList (Text.Base64.encode body.toList)) entries
    shortDescriptions := textsOf (·.shortDescription) entries
    docs := textsOf (·.documentation) entries
    account := spec.account.getD .null
    environment := spec.environment
    configuration := { spec with tasks := entries.map TaskEntry.task }.toValue
    configurationType := Script.deploymentType
    configurationId := spec.deploymentName
    clientType := Publish.clientType
    clientVersion := Script.generatorVersion }

def record : Record where
  name := "TransportEnvelope"
  fields := [
    .needed "sql" (.map .text),
    .needed "short_descriptions" (.map .text),
    .needed "docs_md" (.map .text),
    .needed "account" .any,
    .needed "environment" .text,
    .needed "configuration" .any,
    .needed "configuration_type" .text,
    .needed "configuration_id" .text,
    .needed "client_type" .text,
    .needed "client_version" .text]
  positional := true

/-- The document of an envelope, its fields in the order of the record. -/
def toValue (e : Envelope) : Value :=
  .object [
    ("sql", .object e.sql),
    ("short_descriptions", .object e.shortDescriptions),
    ("docs_md", .object e.docs),
    ("account", e.account),
    ("environment", .text e.environment),
    ("configuration", e.configuration),
    ("configuration_type", .text e.configurationType),
    ("configuration_id", .text e.configurationId),
    ("client_type", .text e.clientType),
    ("client_version", .text e.clientVersion)]

def ofMembers (members : Members) : Envelope where
  sql := ((members.get? "sql").getD .null).members
  shortDescriptions := ((members.get? "short_descriptions").getD .null).members
  docs := ((members.get? "docs_md").getD .null).members
  account := (members.get? "account").getD .null
  environment := (members.text? "environment").getD ""
  configuration := (members.get? "configuration").getD .null
  configurationType := (members.text? "configuration_type").getD ""
  configurationId := (members.text? "configuration_id").getD ""
  clientType := (members.text? "client_type").getD ""
  clientVersion := (members.text? "client_version").getD ""

def decode (data : String) : Except Failure Envelope := do
  .ok (ofMembers (← Opaque.decode record.form data).members)

end Envelope

end WorkflowCompiler.Publish
