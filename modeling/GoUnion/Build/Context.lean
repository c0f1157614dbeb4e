/-!
# Build contexts

The platform that a package is built for, and the tags that are satisfied
there.  A tag is satisfied if it names the system, the architecture or the
compiler, if it is one of a few special tags whose answer depends on the
system, if it names a release, or if it was given by the user.
-/

namespace GoUnion.Build

/-- The operating systems that a file name can select. -/
def knownSystems : List String :=
  ["aix", "android", "darwin", "dragonfly", "freebsd", "hurd", "illumos", "ios", "js", "linux",
   "nacl", "netbsd", "openbsd", "plan9", "solaris", "wasip1", "windows", "zos"]

/-- The architectures that a file name can select. -/
def knownArchitectures : List String :=
  ["386", "amd64", "amd64p32", "arm", "armbe", "arm64", "arm64be", "loong64", "mips", "mipsle",
   "mips64", "mips64le", "mips64p32", "mips64p32le", "ppc", "ppc64", "ppc64le", "riscv",
   "riscv64", "s390", "s390x", "sparc", "sparc64", "wasm"]

/-- The operating systems that satisfy the tag `unix`. -/
def unixSystems : List String :=
  ["aix", "android", "darwin", "dragonfly", "freebsd", "hurd", "illumos", "ios", "linux",
   "netbsd", "openbsd", "solaris"]

/-- A target platform and the tags given by the user. -/
structure Context where
  system : String
  architecture : String
  cgo : Bool
  tags : List String
  deriving DecidableEq, Repr

namespace Context

/-- A platform with the foreign-function interface on and no tags. -/
def ofPlatform (system architecture : String) : Context :=
  { system, architecture, cgo := true, tags := [] }

/-- The value of an environment variable; an empty one counts as unset. -/
def setting? (environment : String → Option String) (name : String) : Option String :=
  (environment name).filter (· ≠ "")

/-- The host platform, overridden by environment variables. -/
def ofEnvironment (host : Context) (environment : String → Option String) : Context where
  system := (setting? environment "GOOS").getD host.system
  architecture := (setting? environment "GOARCH").getD host.architecture
  cgo := ((setting? environment "CGO_ENABLED").map (· != "0")).getD host.cgo
  tags := host.tags

/-- A context with further tags. -/
def addTags (context : Context) (tags : List String) : Context :=
  { context with tags := context.tags ++ tags }

/-- Whether a tag names a release; every release counts as reached. -/
def isRelease (tag : String) : Bool :=
  match ['g', 'o', '1', '.'].isPrefixOf? tag.toList with
  | some minor => !minor.isEmpty && minor.all fun c => '0' ≤ c && c ≤ '9'
  | none => false

/-- Whether a tag is satisfied. -/
def satisfies (context : Context) (tag : String) : Bool :=
  if tag = context.system ∨ tag = context.architecture ∨ tag = "gc" then true
  else if tag = "cgo" then context.cgo
  else if tag = "unix" then unixSystems.contains context.system
  else if tag = "linux" then context.system = "android"
  else if tag = "solaris" then context.system = "illumos"
  else if tag = "darwin" then context.system = "ios"
  else isRelease tag || context.tags.contains tag

/-- The parts of a file name that may select a platform: those after an underscore, up to the
first point.  A last part `test` does not count. -/
def platformParts (fileName : String) : List String :=
  let stem := fileName.toList.takeWhile (· ≠ '.')
  let parts := (((stem.splitOn '_').drop 1).map String.ofList)
  if parts.getLast? = some "test" then parts.dropLast else parts

/-- Whether the platform that a file name selects, if it does, is the target. -/
def admitsFileName (context : Context) (fileName : String) : Bool :=
  match (platformParts fileName).reverse with
  | [] => true
  | [last] =>
    if knownSystems.contains last || knownArchitectures.contains last then
      context.satisfies last
    else true
  | last :: previous :: _ =>
    if knownSystems.contains previous && knownArchitectures.contains last then
      context.satisfies previous && context.satisfies last
    else if knownSystems.contains last || knownArchitectures.contains last then
      context.satisfies last
    else true

end Context

end GoUnion.Build
