import BuildReport.Config

/-!
# Objects and arguments

Assembling a source makes one object in the directory for results. The object is named for the
source: what the source's name has from its last dot on becomes `.o`. A name without a dot, or with
one at its start, is kept and gets `.o` behind it.

- `objectStem`: what the name of an object keeps of the source's name.
- `objectName`, `objectPath`: the object of a source.
- `Config.assemblerArguments`, `Config.linkerArguments`: the arguments of the two tools.
-/

namespace BuildReport

/-- The text before the last dot. -/
def beforeLastDot (name : List Char) : List Char :=
  ((name.reverse.dropWhile (· ≠ '.')).drop 1).reverse

/-- What the name of an object keeps of the source's name: the text before its last dot, or, if it
has no dot or begins with one, all of it. -/
def objectStem (name : List Char) : List Char :=
  if name.contains '.' && name.head? != some '.' then beforeLastDot name else name

/-- The name of the object of a source. -/
def objectName (source : Path) : String :=
  String.ofList (objectStem (source.fileName?.getD "").toList ++ ['.', 'o'])

/-- The object of a source. -/
def objectPath (buildDir source : Path) : Path :=
  buildDir.join ⟨objectName source⟩

namespace Config

/-- The arguments for assembling a source into an object. -/
def assemblerArguments (c : Config) (source object : Path) (debug : Bool) : List String :=
  c.assembler.options ++ (if debug then ["-linedebug"] else []) ++ ["-o", object.text, source.text]

/-- The arguments for linking the objects of the sources into a program. -/
def linkerArguments (c : Config) (sources : List Path) (exe : String) (buildDir : Path) :
    List String :=
  c.linker.options ++ ["-o", (buildDir.join ⟨exe⟩).text] ++
    sources.map fun source => (objectPath buildDir source).text

end Config

end BuildReport
