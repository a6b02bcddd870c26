import SchemaSdl.Text.Runs

/-! The characters that extend the grapheme before them. -/

namespace SchemaSdl.Text

/-- The property Grapheme_Extend by run. -/
def graphemeExtendRuns : Runs := .ofText
  "768N112Y275N7Y263N45Y1N1Y1N2Y1N2Y1N1Y72N11Y48N21Y16N1Y101N7Y2N6Y2N2Y1N4Y35N1Y30N27Y91N11Y58N9Y9N1Y24N4Y1N9
  Y1N3Y1N5Y43N3Y59N9Y42N24Y1N32Y55N1Y1N1Y4N8Y4N1Y3N7Y10N2Y29N1Y58N1Y1N1Y2N4Y8N1Y9N1Y10N2Y26N1Y2N2Y57N1Y4N2Y4
  N2Y2N3Y3N1Y30N2Y3N1Y11N2Y57N1Y4N5Y1N2Y4N1Y20N2Y22N6Y1N1Y58N1Y1N2Y1N4Y8N1Y7N3Y10N2Y30N1Y59N1Y1N1Y12N1Y9N1Y4
  0N1Y3N1Y55N1Y1N3Y5N3Y1N4Y7N2Y11N2Y29N1Y58N1Y2N2Y1N1Y3N3Y1N4Y7N2Y11N2Y28N2Y57N2Y1N1Y2N4Y8N1Y9N1Y10N2Y29N1Y7
  2N1Y4N1Y2N3Y1N1Y8N1Y81N1Y2N7Y12N8Y98N1Y2N9Y11N7Y73N2Y27N1Y1N1Y1N1Y55N14Y1N5Y1N2Y5N11Y1N36Y9N1Y102N4Y1N6Y1N
  2Y2N2Y25N2Y4N3Y16N4Y13N1Y2N2Y6N1Y15N1Y703N3Y946N4Y28N3Y29N2Y30N2Y64N2Y1N7Y8N1Y2N11Y9N1Y45N3Y1N1Y117N2Y34N1
  Y118N3Y4N2Y9N1Y6N3Y219N2Y2N1Y58N1Y1N7Y1N1Y1N1Y2N8Y6N10Y2N1Y48N46Y2N12Y20N4Y48N10Y4N3Y38N9Y12N2Y32N4Y2N6Y56
  N1Y1N2Y3N1Y1N5Y56N8Y2N2Y152N3Y1N13Y1N7Y4N1Y6N1Y3N2Y198N64Y524N1Y195N33Y3070N3Y141N1Y96N32Y554N6Y105N2Y3016
  4N4Y1N10Y32N2Y80N2Y272N1Y3N1Y4N1Y25N2Y5N1Y151N2Y26N18Y13N1Y38N8Y25N11Y1N1Y44N3Y48N1Y2N4Y2N2Y2N1Y36N1Y67N6Y
  2N2Y2N2Y12N1Y8N1Y47N1Y51N1Y1N3Y2N2Y5N2Y1N1Y42N2Y8N1Y238N1Y2N1Y4N1Y20272N1Y737N16Y16N16Y366N2Y605N1Y226N1Y1
  49N5Y1670N3Y1N2Y5N4Y40N3Y4N1Y165N2Y573N4Y65N5Y317N2Y77N6Y70N11Y49N4Y123N1Y54N15Y41N1Y2N2Y10N3Y49N4Y2N2Y7N1
  Y61N3Y36N5Y1N8Y62N1Y12N2Y52N9Y1N1Y8N4Y2N1Y95N3Y2N4Y6N1Y2N1Y157N1Y3N8Y21N2Y57N2Y1N1Y1N1Y12N1Y9N1Y14N7Y3N5Y6
  7N1Y2N6Y1N1Y2N1Y1N3Y4N3Y1N1Y14N2Y85N8Y2N3Y1N1Y23N1Y81N1Y2N6Y1N1Y2N1Y1N2Y1N2Y235N1Y2N4Y6N2Y1N2Y27N2Y85N8Y2N
  1Y1N2Y106N1Y1N1Y2N8Y101N1Y1N1Y2N4Y1N5Y259N9Y1N2Y245N1Y10N4Y4N1Y144N4Y2N2Y4N1Y32N10Y40N6Y2N4Y8N1Y9N6Y2N3Y46
  N13Y1N2Y198N1Y1N3Y1N1Y201N7Y1N6Y1N1Y82N22Y2N7Y1N2Y1N2Y122N6Y3N1Y1N2Y1N7Y1N1Y72N2Y3N1Y1N1Y347N2Y11N2Y52N5Y5
  N3Y23N1Y5349N1Y6N15Y11464N12Y3N3Y2496N5Y59N7Y1048N1Y63N4Y81N1Y11N2Y19627N2Y4705N46Y2N23Y542N5Y3N6Y8N8Y2N7Y
  30N4Y148N3Y1979N55Y4N50Y8N1Y14N1Y22N5Y1N15Y1360N7Y1N17Y2N7Y1N2Y1N5Y100N1Y160N7Y375N1Y61N4Y508N4Y254N2Y243N
  1Y2N1Y7N2Y5N1Y474N7Y109N7Y792277N96Y128N240Y196112N"

/-- Whether a character has the property Grapheme_Extend. -/
def extendsGrapheme (c : Char) : Bool := graphemeExtendRuns.label c == "Y"

end SchemaSdl.Text
