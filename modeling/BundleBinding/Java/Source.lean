import BundleBinding.Binding.Spec
import BundleBinding.FileTree

/-!
Generated Java. A specification becomes a class with two static methods: `bind` reads every key into
its field and fails on a missing required key, `pack` writes every field back under its key. Both
begin with the binder of the parent specification.
-/

namespace BundleBinding

structure GeneratedFile where
  package : String
  typeName : String
  source : String
  deriving Repr, DecidableEq

namespace GeneratedFile

/-- The file of a compilation unit: a directory for each segment of the package. -/
def path (file : GeneratedFile) : String :=
  let segments := (Name.segments file.package.toList).map String.ofList
  FilePath.push (FilePath.ofParts (segments.filter fun segment => !segment.isEmpty))
    (file.typeName ++ ".java")

end GeneratedFile

namespace Java

/-- The suffix of binder classes unless the configuration gives another. -/
def defaultSuffix : String :=
  "_BundleBinder"

/-- A text with every occurrence of a character replaced. -/
def replaceAll (c : Char) (replacement text : List Char) : List Char :=
  text.flatMap fun other => if other = c then replacement else [other]

/-- Text between the quotes of a string literal: first its backslashes are doubled, then each quote
gets a backslash. -/
def escape (text : String) : String :=
  String.ofList (replaceAll '"' ['\\', '"'] (replaceAll '\\' ['\\', '\\'] text.toList))

/-- Text that stays in its comment line. -/
def commentText (text : String) : String :=
  text.map fun c => if c = '\n' then ' ' else c

/-- The class name of a host's binder: the class path, flattened, and the suffix. -/
def binderSimpleName (suffix host : String) : String :=
  (Name.classPath host).map (fun c => if c = '.' then '$' else c) ++ suffix

/-- The qualified name of a host's binder. -/
def binderName (suffix host : String) : String :=
  let package := Name.package host
  if package.isEmpty then binderSimpleName suffix host
  else package ++ "." ++ binderSimpleName suffix host

def container : String :=
  Name.simple TypeRef.bundle

def commentLine (field : FieldBinding) : String :=
  "    // " ++ field.name ++ ": " ++ commentText field.description

def testLine (field : FieldBinding) : String :=
  "    if (bundle.containsKey(\"" ++ escape field.key ++ "\")) \x7b"

/-- The cast in front of what is read, for the kinds that need one. -/
def cast (field : FieldBinding) : String :=
  if field.kind.needsCast then "(" ++ field.type.render ++ ") " else ""

def readLine (field : FieldBinding) : String :=
  "      target." ++ field.name ++ " = " ++ cast field ++ "bundle." ++ field.kind.getter ++
    "(\"" ++ escape field.key ++ "\");"

def failureLine (field : FieldBinding) : String :=
  "      throw new IllegalStateException(\"Missing required value for key '" ++
    escape field.key ++ "' (" ++ field.name ++ ")\");"

/-- Reads a key into its field, if the container has it. -/
def readLines (field : FieldBinding) : List String :=
  (if field.description.isEmpty then [] else [commentLine field]) ++
  [testLine field, readLine field] ++
  (if field.required then ["    \x7d else \x7b", failureLine field] else []) ++
  ["    \x7d"]

def writeLine (field : FieldBinding) : String :=
  "    bundle." ++ field.kind.setter ++ "(\"" ++ escape field.key ++ "\", target." ++
    field.name ++ ");"

/-- A static method over the target and the container, with the parent's method called first. -/
def methodLines (name suffix : String) (spec : BindingSpec) (body : List String) : List String :=
  ["  public static void " ++ name ++ "(" ++ spec.classPath ++ " target, " ++ container ++
    " bundle) \x7b"] ++
  (spec.parent.toList.map fun parent =>
    "    " ++ binderName suffix parent.host ++ "." ++ name ++ "(target, bundle);") ++
  body ++ ["  \x7d"]

def lines (suffix : String) (spec : BindingSpec) : List String :=
  ["// Generated by bundlewire. Do not modify."] ++
  (if spec.package.isEmpty then [] else ["package " ++ spec.package ++ ";", ""]) ++
  ["import " ++ TypeRef.bundle ++ ";", "",
   "public class " ++ binderSimpleName suffix spec.host ++ " \x7b"] ++
  methodLines "bind" suffix spec (spec.fields.flatMap readLines) ++
  [""] ++
  methodLines "pack" suffix spec (spec.fields.map writeLine) ++
  ["\x7d"]

/-- The compilation unit of a specification. -/
def generate (suffix : String) (spec : BindingSpec) : GeneratedFile :=
  { package := spec.package
    typeName := binderSimpleName suffix spec.host
    source := String.join ((lines suffix spec).map (· ++ "\n")) }

/-- The compilation units of all specifications, in their order. -/
def generateAll (suffix : String) (specs : List BindingSpec) : List GeneratedFile :=
  specs.map (generate suffix)

end Java

end BundleBinding
