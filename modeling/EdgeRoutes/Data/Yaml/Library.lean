import EdgeRoutes.Data.Yaml.Reader
import EdgeRoutes.Data.Yaml.Writer

/-! Libraries for YAML. What settings files need of one is given here, and no more is taken to be known of it: the data
in a text, or why there is none, and the text for a map. -/

namespace EdgeRoutes

/-- A library that reads and writes YAML. A map is written with its entries in their order. -/
structure YamlLibrary where
  load : String → Except String Data
  dump : List (Scalar × Data) → String

/-- The part of YAML that is read and written by indentation, without anchors, tags and text in blocks. It serves where
the program runs without another library. -/
def Yaml.byIndentation : YamlLibrary where
  load text := (Yaml.read text).elim (.error "malformed settings file") .ok
  dump := Yaml.page

end EdgeRoutes
