import Relink.Extension
import Relink.Options.Basic

/-!
# Candidates

The files a path may stand for, in the order in which they are tried: by the
extension it is written with, by an extension appended to it, and by the index
file of the directory it names.
-/

namespace Relink

namespace Resolution

/-- The extensions that may be appended to a path. -/
def implied (options : Options) : List Extension :=
  [.ts, .tsx, .dts] ++ if options.allowJs then [.js, .jsx] else []

/-- The files a path stands for by its own extension.  A script stands first for
the sources that compile to it. -/
def spelled (options : Options) (path : Path) : List Path :=
  let extension := Extension.ofPath path
  if extension.isJavaScript then
    (extension.sources.map fun source => source.appendTo (extension.dropFrom path)) ++
      if options.allowJs then [path] else []
  else if extension.isTypeScript || (extension = .json && options.resolveJsonModule) then
    [path]
  else
    []

/-- The files a path stands for by an appended extension. -/
def appended (options : Options) (path : Path) : List Path :=
  (implied options).map fun extension => extension.appendTo path

/-- The index files of a directory. -/
def indexes (options : Options) (directory : Path) : List Path :=
  appended options (directory.join (.ofString "index"))

/-- The files that the entry of a package may stand for. -/
def entryFiles (options : Options) (target : Path) : List Path :=
  spelled options target ++ appended options target ++ indexes options target

end Resolution

end Relink
