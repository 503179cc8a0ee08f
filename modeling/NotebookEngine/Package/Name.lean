/-
**Packages that specifiers name.**

A bare specifier names a package, perhaps followed by a path inside it; a package of a scope has two
parts.  Paths, `node:` specifiers and the modules that come with the platform name no package of the
registry.

Main definitions:

* `Package.builtins` — the modules that come with the platform;
* `Package.name?` — the registry package of a specifier;
* `Package.required` — the packages that a source text needs.
-/

import NotebookEngine.Package.Specifier

set_option autoImplicit false

namespace NotebookEngine

namespace Package

/-- The modules that come with the platform. -/
def builtins : List String :=
  ["assert", "async_hooks", "buffer", "child_process", "cluster", "console", "constants",
    "crypto", "dgram", "dns", "domain", "events", "fs", "http", "http2", "https", "inspector",
    "module", "net", "os", "path", "perf_hooks", "process", "punycode", "querystring", "readline",
    "repl", "stream", "string_decoder", "timers", "tls", "trace_events", "tty", "url", "util", "v8",
    "vm", "worker_threads", "zlib"]

/-- The registry package that a specifier names. -/
def name? (specifier : String) : Option String :=
  if specifier.isEmpty ∨ specifier.startsWith "." ∨ specifier.startsWith "/" ∨
      specifier.startsWith "node:" then none
  else
    let package :=
      match Text.splitOnChar '/' specifier with
      | [] => none
      | first :: rest =>
        if first.startsWith "@" then rest.head?.map fun second => first ++ "/" ++ second
        else some first
    package.filter fun p => !builtins.contains p

/-- The registry packages that a source text needs, in order of first appearance. -/
def required (source : String) : List String :=
  Specifier.firsts [] ((Specifier.find source).filterMap name?)

end Package

end NotebookEngine
