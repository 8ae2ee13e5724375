import Mustache.Node.Parser

/-! # Templates
A template is a list of nodes together with what holds for all of them: a name, whether a missing
name is an error, and the partials that belong to the template. `Template.Options` holds these
settings and the first delimiters, and `Template.parse` makes a template of them and a source. -/

namespace Mustache

/-- A parsed template. -/
structure Template where
  /-- The name under which others include the template. -/
  name : String
  /-- The parts of the template. -/
  nodes : List Node
  /-- The partials of the template by name, with ascending names. -/
  partials : List (String × Template)
  /-- Whether it is an error that a name stands for nothing. -/
  strict : Bool

namespace Template

instance : Inhabited Template := ⟨⟨"", [], [], false⟩⟩

/-- The partial of this name that belongs to the template. -/
def ownPartial? (t : Template) (name : String) : Option Template := Entries.get? t.partials name

/-! ## Settings -/

/-- What is settled before a template is parsed. -/
structure Options where
  /-- The name of the template. -/
  name : String := ""
  /-- The text that opens tags, at the start of the source. -/
  opening : String := String.ofList Delimiters.braces.opening
  /-- The text that closes tags, at the start of the source. -/
  closing : String := String.ofList Delimiters.braces.closing
  /-- Whether it is an error that a name stands for nothing. -/
  strict : Bool := false
  /-- The partials of the template. -/
  partials : Entries Template := []

namespace Options

/-- Gives the template a name. -/
def withName (o : Options) (name : String) : Options := { o with name := name }

/-- Sets the first delimiters. -/
def withDelimiters (o : Options) (opening closing : String) : Options :=
  { o with opening := opening, closing := closing }

/-- Settles whether it is an error that a name stands for nothing. -/
def withStrict (o : Options) (strict : Bool) : Options := { o with strict := strict }

/-- Adds a partial under its own name, instead of one that had this name. -/
def withPartial (o : Options) (t : Template) : Options :=
  { o with partials := Entries.insert t.name t o.partials }

end Options

/-! ## Reading templates -/

/-- The template with the given source. -/
def parse (o : Options) (source : String) : Except Error Template :=
  (Node.parse (Scanner.ofTexts o.opening o.closing source)).map fun nodes =>
    { name := o.name, nodes := nodes, partials := o.partials, strict := o.strict }

/-- The template whose source has the given UTF-8 form. -/
def parseBytes (o : Options) (source : ByteArray) : Except Error Template :=
  match Utf8.decode source with
  | .ok text => parse o text
  | .error fault => .error (.io (.notText fault))

/-- The template whose source is a stream of bytes with the given content. -/
def parseStream (o : Options) (content : ByteArray) : Except Error Template :=
  match Utf8.decode content with
  | .ok text => parse o text
  | .error _ => .error (.io .streamNotText)

end Template

end Mustache
