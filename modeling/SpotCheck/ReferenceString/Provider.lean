import SpotCheck.ReferenceString.File

/-!
# Providers of reference strings

A provider hands out one reference string: one that it holds, one that it generates from a seed,
or one that it reads from a file. Generating and reading happen at the first request that
succeeds; from then on the provider hands out the string it has, whatever becomes of the file.
-/

namespace SpotCheck

inductive Source where
  | memory (string : ReferenceString)
  | seeded (points : Nat) (seed : Bytes)
  | file (path : String)
  /-- Every request faults. -/
  | faulty (payload : Payload)
  deriving DecidableEq

/-- A source and, once a request has succeeded in loading it, its reference string. -/
structure Provider where
  source : Source
  cache : Option ReferenceString
  deriving DecidableEq

namespace Provider

open ReferenceString (Error)

def ofSource (source : Source) : Provider := ⟨source, none⟩

def memory (string : ReferenceString) : Provider := ofSource (.memory string)

def seeded (points : Nat) (seed : Bytes) : Provider := ofSource (.seeded points seed)

def file (path : String) : Provider := ofSource (.file path)

def defaultPoints : Nat := 4096

def defaultSeed : Bytes := Bytes.ofText "zkbind-default-srs-v1"

/-- The provider in force before one is installed. -/
def default : Provider := seeded defaultPoints defaultSeed

/-- The reference string as the source gives it now. -/
def load (files : Files) : Source → Outcome Error ReferenceString
  | .memory string => .ok string
  | .seeded points seed => ReferenceString.generate points seed
  | .file path => Outcome.ofResult (ReferenceString.ofFile files path)
  | .faulty payload => .error (.fault (.raised payload))

def isLoaded (p : Provider) : Bool := p.cache.isSome

/-- The provider's string with at least a number of points, and the provider afterwards. -/
def request (p : Provider) (files : Files) (least : Nat) :
    Outcome Error ReferenceString × Provider :=
  match p.cache with
  | some string => (Outcome.ofResult (string.ensure least), p)
  | none =>
    match load files p.source with
    | .ok string => (Outcome.ofResult (string.ensure least), { p with cache := some string })
    | .error stop => (.error stop, p)

/-- What the provider is, in words. -/
def describe (p : Provider) : String :=
  match p.source with
  | .memory string => "in-memory reference string (" ++ toString string.size ++ " points)"
  | .seeded points _ => "seeded reference string (" ++ toString points ++ " points)"
  | .file path => "reference string file " ++ path
  | .faulty _ => "faulty reference string"

/-- A provider that has loaded its string already; a source that cannot be loaded gives none. -/
def loaded (files : Files) (source : Source) : Outcome Error Provider :=
  match (ofSource source).request files 0 with
  | (.ok _, p) => .ok p
  | (.error stop, _) => .error stop

end Provider

/-! ### Shared providers -/

/-- Providers that several holders share, known by their position, and the one that is installed
for the whole process. -/
structure ProviderPool where
  providers : List Provider
  installed : Option Nat

namespace ProviderPool

def empty : ProviderPool := ⟨[], none⟩

/-- Adds a provider; its position is its identity. -/
def add (pool : ProviderPool) (p : Provider) : Nat × ProviderPool :=
  (pool.providers.length, { pool with providers := pool.providers ++ [p] })

def get (pool : ProviderPool) (position : Nat) : Provider :=
  pool.providers.getD position Provider.default

/-- A request to a shared provider: every holder sees what it has loaded. -/
def request (pool : ProviderPool) (files : Files) (position least : Nat) :
    Outcome ReferenceString.Error ReferenceString × ProviderPool :=
  let (answer, p) := (pool.get position).request files least
  (answer, { pool with providers := pool.providers.set position p })

def install (pool : ProviderPool) (position : Nat) : ProviderPool :=
  { pool with installed := some position }

/-- The installed provider; the default one is installed when there is none. -/
def current (pool : ProviderPool) : Nat × ProviderPool :=
  match pool.installed with
  | some position => (position, pool)
  | none =>
    let (position, pool) := pool.add Provider.default
    (position, pool.install position)

/-- Installs a provider of a source that can be loaded; one that cannot changes nothing. -/
def installLoaded (pool : ProviderPool) (files : Files) (source : Source) :
    Outcome ReferenceString.Error Unit × ProviderPool :=
  match Provider.loaded files source with
  | .ok p =>
    let (position, pool) := pool.add p
    (.ok (), pool.install position)
  | .error stop => (.error stop, pool)

end ProviderPool

end SpotCheck
