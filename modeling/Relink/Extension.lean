import Relink.Path.Basic

/-!
# File extensions

The extensions module resolution tells apart, the files a script extension may
stand for, and what an extension says about the language and the module format
of a file.
-/

namespace Relink

/-- The extension of a module file, `unknown` for every other file. -/
inductive Extension
  | ts | tsx | dts | dmts | dcts
  | js | jsx | mjs | cjs
  | mts | cts
  | json
  | unknown
deriving DecidableEq, Repr, Inhabited

namespace Extension

/-- The extension as it is written behind a file name. -/
def text : Extension → Text
  | ts => ['.', 't', 's']
  | tsx => ['.', 't', 's', 'x']
  | dts => ['.', 'd', '.', 't', 's']
  | dmts => ['.', 'd', '.', 'm', 't', 's']
  | dcts => ['.', 'd', '.', 'c', 't', 's']
  | js => ['.', 'j', 's']
  | jsx => ['.', 'j', 's', 'x']
  | mjs => ['.', 'm', 'j', 's']
  | cjs => ['.', 'c', 'j', 's']
  | mts => ['.', 'm', 't', 's']
  | cts => ['.', 'c', 't', 's']
  | json => ['.', 'j', 's', 'o', 'n']
  | unknown => []

/-- The extensions written with one dot. -/
def simple : List Extension :=
  [ts, tsx, js, jsx, mjs, cjs, mts, cts, json]

/-- The extensions written with two dots. -/
def compound : List Extension :=
  [dts, dmts, dcts]

/-- The extension of a file name.  The compound extensions are looked for first
and may be the whole name; the others follow a dot that does not begin it. -/
def ofName (name : Text) : Extension :=
  match compound.find? fun extension => extension.text.isSuffixOf name with
  | some extension => extension
  | none =>
      match (Path.splitName '.' name).2 with
      | some ending =>
          (simple.find? fun extension => extension.text = '.' :: ending).getD unknown
      | none => unknown

/-- The extension of the file a path names.  A file name with stray bytes has none that
is known. -/
def ofPath (path : Path) : Extension :=
  match path.fileName?.bind Letters.text? with
  | some name => ofName name
  | none => unknown

/-- Whether the file is source text with types. -/
def isTypeScript : Extension → Bool
  | ts | tsx | dts | dmts | dcts | mts | cts => true
  | _ => false

/-- Whether the file is a plain script. -/
def isJavaScript : Extension → Bool
  | js | jsx | mjs | cjs => true
  | _ => false

/-- Whether the file is an ES module whatever its package says. -/
def forcesEsm : Extension → Bool
  | mts | mjs | dmts => true
  | _ => false

/-- Whether the file is a CommonJS module whatever its package says. -/
def forcesCommonJs : Extension → Bool
  | cts | cjs | dcts => true
  | _ => false

/-- The source extensions a script extension may stand for, the preferred one
first.  An `.mjs` also stands for `.ts`, so that a specifier that was rewritten
before still finds its file. -/
def sources : Extension → List Extension
  | js => [ts, tsx, dts]
  | jsx => [tsx, dts]
  | mjs => [mts, dmts, ts]
  | cjs => [cts, dcts]
  | _ => []

/-- The path with an extension written behind it. -/
def appendTo (extension : Extension) (path : Path) : Path :=
  ⟨path.letters ++ Letters.ofText extension.text⟩

/-- The path without the extension at its end.  The end is sought in the text of the
path, and what is left of the text is the new path. -/
def dropFrom (extension : Extension) (path : Path) : Path :=
  match Text.dropEnding? extension.text path.text with
  | some stem => .ofText stem
  | none => path

end Extension

end Relink
