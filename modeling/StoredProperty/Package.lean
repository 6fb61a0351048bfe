import StoredProperty.Source.Tree

/-!
# The path to the library

Generated methods name the library through the package that they are in. A package knows others by the names of its
dependencies, and itself. The library is looked for under its own name first, and then inside the package that has all
libraries together; where neither is known, its own name stands, so that the compiler says what is missing.
-/

namespace StoredProperty

open Source

structure Dependency where
  name : String
  /-- The package's own name, where it differs. -/
  package : Option String
  deriving DecidableEq

structure Manifest where
  package : Option String
  /-- All dependencies, in order; later ones win. -/
  dependencies : List Dependency
  /-- The code is a test outside the package, which knows the package by its name. -/
  outside : Bool
  deriving DecidableEq

/-- How a package is known. -/
inductive KnownAs where
  | itself
  | name (name : String)
  deriving DecidableEq

/-- The name of the package that a dependency is on. -/
def Dependency.target (d : Dependency) : String := d.package.getD d.name

namespace Manifest

/-- The name of a package in code. -/
def codeName (name : String) : String := String.ofList (name.toList.map fun c => if c = '-' then '_' else c)

/-- The package itself. -/
def own? (m : Manifest) (target : String) : Option KnownAs :=
  if m.package = some target then some (if m.outside then .name (codeName target) else .itself) else none

/-- A dependency on the package itself does not count. -/
def dependency? (m : Manifest) (target : String) : Option KnownAs :=
  if m.package = some target then none
  else (m.dependencies.reverse.find? (Dependency.target · = target)).map fun d => .name (codeName d.name)

def find? (m : Manifest) (target : String) : Option KnownAs := (m.own? target).or (m.dependency? target)

end Manifest

namespace Library

def name : String := "stowage_store"

/-- The package that has all libraries together. -/
def umbrella : String := "stowage"

/-- The name that a package goes by in the code, where `own` is its own. -/
def known (own : String) : KnownAs → Tree
  | .itself => .word own
  | .name name => .word name

/-- The path to the library for a package with a manifest, or without one. -/
def path (manifest : Option Manifest) : List Tree :=
  match manifest.bind (·.find? name) with
  | some k => [known name k]
  | none =>
    match manifest.bind (·.find? umbrella) with
    | some k => known umbrella k :: Tree.op "::" ++ [.word name]
    | none => [.word name]

end Library

end StoredProperty
