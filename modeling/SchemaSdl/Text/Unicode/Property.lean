import SchemaSdl.Text.Unicode.GraphemeExtend

/-! The binary properties of code points. -/

namespace SchemaSdl.Text

/-- A property that a code point has or has not, with its names and its runs as text. -/
structure BinaryProperty where
  names : List String
  runs : String

/-- Binary properties by run. -/
def binaryProperties : List BinaryProperty :=
  [{ names := ["ASCII_Hex_Digit", "AHex"], runs :=
      "48N10Y7N6Y26N6Y1114009N" },
   { names := ["Alphabetic", "Alpha"], runs :=
      "65N26Y6N26Y47N1Y10N1Y4N1Y5N23Y1N31Y1N458Y4N12Y14N5Y7N1Y1N1Y86N1Y29N18Y1N2Y2N4Y1N1Y6N1Y1N3Y1N1Y1N20Y1N83Y1N
      139Y8N166Y1N38Y2N1Y6N41Y39N14Y1N1Y1N2Y1N2Y1N1Y8N27Y4N4Y29N11Y5N56Y1N7Y14N102Y1N8Y4N8Y4N3Y10N3Y2N1Y16N48Y13
      N101Y24N33Y9N2Y4N1Y5N24Y2N19Y19N25Y7N11Y5N24Y1N7Y7N1Y8N42Y10N12Y3N7Y6N76Y1N16Y1N3Y4N15Y13N19Y1N8Y2N2Y2N22Y
      1N7Y1N1Y3N4Y3N8Y2N2Y2N2Y1N1Y8N1Y4N2Y1N5Y12N2Y10N1Y4N3Y1N6Y4N2Y2N22Y1N7Y1N2Y1N2Y1N2Y4N5Y4N2Y2N2Y4N1Y7N4Y1N1
      Y17N6Y11N3Y1N9Y1N3Y1N22Y1N7Y1N2Y1N5Y3N9Y1N3Y1N2Y3N1Y15N4Y21N4Y4N3Y1N8Y2N2Y2N22Y1N7Y1N2Y1N5Y3N8Y2N2Y2N2Y9N2
      Y4N2Y1N5Y13N1Y16N2Y1N6Y3N3Y1N4Y3N2Y1N1Y1N2Y3N2Y3N3Y3N12Y4N5Y3N3Y1N3Y3N1Y6N1Y40N13Y1N3Y1N23Y1N16Y3N8Y1N3Y1N
      3Y8N2Y1N3Y1N2Y2N4Y28N4Y1N8Y1N3Y1N23Y1N10Y1N5Y3N8Y1N3Y1N3Y8N2Y5N3Y1N4Y13N3Y12N13Y1N3Y1N41Y2N8Y1N3Y1N3Y1N1Y5
      N4Y7N5Y22N6Y1N3Y1N18Y3N24Y1N9Y1N1Y2N7Y8N6Y1N1Y1N8Y18N2Y13N58Y5N7Y6N1Y51N2Y1N1Y1N5Y1N24Y1N1Y1N19Y1N3Y2N5Y1N
      1Y6N1Y14N4Y32N1Y63N8Y1N36Y4N19Y4N16Y1N36Y67N55Y1N1Y2N5Y16N64Y10N4Y2N38Y1N1Y5N1Y2N43Y1N333Y1N4Y2N7Y1N1Y1N4Y
      2N41Y1N4Y2N33Y1N4Y2N7Y1N1Y1N4Y2N15Y1N57Y1N4Y2N67Y37N16Y16N86Y2N6Y3N620Y2N17Y1N26Y5N75Y3N11Y7N20Y11N21Y12N2
      0Y12N13Y1N3Y1N2Y12N52Y2N19Y14N1Y4N1Y67N89Y7N43Y5N70Y10N31Y1N12Y4N9Y23N30Y2N5Y11N44Y4N26Y54N28Y4N63Y2N20Y50
      N1Y23N2Y11N3Y49N52Y1N15Y1N8Y51N42Y2N4Y10N44Y1N11Y14N55Y22N3Y10N36Y2N11Y5N43Y2N3Y41N4Y1N6Y1N2Y3N1Y5N192Y19N
      34Y11N278Y2N6Y2N38Y2N6Y2N8Y1N1Y1N1Y1N1Y1N31Y2N53Y1N7Y1N1Y3N3Y1N7Y3N4Y2N6Y4N13Y5N3Y1N7Y116N1Y13N1Y16N13Y101
      N1Y4N1Y2N10Y1N1Y3N5Y6N1Y1N1Y1N1Y1N4Y1N11Y2N4Y5N5Y4N1Y17N41Y813N52Y1814N229Y6N4Y3N2Y12N38Y1N1Y5N1Y2N56Y7N1Y
      16N23Y9N7Y1N7Y1N7Y1N7Y1N7Y1N7Y1N7Y1N7Y1N32Y47N1Y469N3Y25N9Y7N5Y2N5Y4N86Y6N3Y1N90Y1N4Y5N43Y1N94Y17N32Y48N16
      Y512N6592Y64N22157Y67N46Y2N269Y3N16Y10N2Y20N47Y5N8Y3N113Y39N9Y2N103Y2N82Y20N21Y1N33Y24N52Y12N68Y1N1Y44N6Y3
      N1Y1N3Y10N33Y5N35Y13N29Y3N51Y1N12Y15N1Y16N16Y10N5Y1N55Y9N14Y18N23Y3N69Y1N1Y1N1Y24N3Y2N16Y2N4Y11N6Y2N6Y2N6Y
      9N7Y1N7Y1N43Y1N14Y6N123Y21N11172Y12N23Y4N49Y8452N366Y2N106Y38N7Y12N5Y5N12Y1N13Y1N5Y1N1Y1N2Y1N2Y1N108Y33N36
      3Y18N64Y2N54Y40N12Y116N5Y1N135Y36N26Y6N26Y11N89Y3N6Y2N6Y2N6Y2N3Y35N12Y1N26Y1N19Y1N2Y1N15Y2N14Y34N123Y69N53
      Y267N29Y3N49Y47N32Y13N30Y5N43Y5N30Y2N36Y4N8Y1N5Y42N158Y18N36Y4N36Y4N40Y8N52Y12N11Y1N15Y1N7Y1N2Y1N11Y1N15Y1
      N7Y1N2Y3N52Y12N311Y9N22Y10N8Y24N6Y1N42Y1N9Y69N6Y2N1Y1N44Y1N2Y3N1Y2N23Y10N23Y9N31Y65N19Y1N2Y10N22Y10N26Y6N2
      6Y38N56Y6N2Y64N4Y1N2Y5N8Y1N3Y1N29Y42N29Y3N29Y35N8Y1N28Y27N54Y10N22Y10N19Y13N18Y110N73Y55N51Y13N51Y13N40Y34
      N28Y3N1Y5N23Y250N42Y1N2Y3N2Y16N6Y50N3Y3N29Y10N1Y8N22Y42N18Y46N21Y27N23Y9N70Y43N5Y10N57Y9N1Y13N25Y23N51Y17N
      4Y8N35Y3N1Y9N64Y1N4Y9N2Y10N1Y1N1Y35N18Y1N34Y2N1Y6N4Y62N7Y1N1Y1N4Y1N15Y1N10Y7N57Y23N4Y1N8Y2N2Y2N22Y1N7Y1N2Y
      1N5Y3N8Y2N2Y2N2Y3N1Y6N1Y5N7Y28N10Y1N1Y2N1Y1N38Y1N10Y1N1Y2N1Y1N4Y1N2Y3N1Y1N1Y44N66Y1N3Y1N4Y20N3Y30N66Y2N2Y1
      N1Y184N54Y2N7Y25N6Y34N63Y1N1Y3N1Y59N54Y2N1Y71N27Y2N14Y21N7Y185N57Y103N64Y31N8Y2N1Y2N8Y1N2Y1N30Y1N2Y2N2Y2N4
      Y93N8Y2N46Y2N6Y1N1Y1N2Y27N51Y2N10Y17N72Y5N1Y18N73Y103N8Y88N33Y31N9Y1N45Y1N7Y1N1Y49N30Y2N22Y1N14Y73N7Y1N2Y1
      N44Y3N1Y1N2Y1N3Y1N1Y2N2Y24N6Y1N2Y1N37Y1N2Y1N4Y1N1Y23N44Y260N23Y9N17Y1N41Y3N3Y111N1Y79N922Y102N111Y17N196Y2
      636N97Y15N1072Y17N6Y25N3995Y5N583Y6841N47Y1745N569Y7N31Y17N79Y17N30Y18N48Y16N4Y31N21Y5N19Y432N45Y211N64Y32
      N25Y2N25Y44N75Y4N57Y7N17Y64N2Y1N1Y12N7Y9N7382Y41N32Y97N115Y8701N4Y1N7Y1N2Y1N291Y15N1Y29N3Y2N1Y14N4Y8N396Y2
      308N107Y5N13Y3N9Y7N10Y4N1Y5985N85Y1N71Y1N2Y2N1Y2N2Y2N4Y1N12Y1N1Y1N7Y1N65Y1N4Y2N8Y1N7Y1N28Y1N4Y1N5Y1N1Y3N7Y
      1N340Y2N25Y1N25Y1N31Y1N25Y1N31Y1N25Y1N31Y1N25Y1N31Y1N25Y1N8Y1844N31Y6N6Y213N7Y1N17Y2N7Y1N2Y1N5Y5N62Y33N1Y1
      12N45Y10N7Y16N1Y321N30Y18N44Y484N28Y228N30Y2N1Y207N31Y1N22Y8N2Y224N7Y1N4Y1N2Y1N15Y1N197Y59N68Y3N1Y3N1Y1204
      N4Y1N27Y1N2Y1N1Y2N1Y1N10Y1N4Y1N1Y1N1Y6N1Y4N1Y1N1Y1N1Y1N3Y1N2Y1N1Y2N1Y1N1Y1N1Y1N1Y1N1Y1N2Y1N1Y2N4Y1N7Y1N4Y1
      N4Y1N1Y1N10Y1N17Y5N3Y1N5Y1N17Y628N26Y6N26Y6N26Y3702N42720Y32N4382Y2N5774Y2N7473Y15N622Y2466N542Y1506N4939Y
      5N8490Y904070N" },
   { names := ["Bidi_Control", "Bidi_C"], runs :=
      "1564N1Y6641N2Y26N5Y55N4Y1105814N" },
   { names := ["Bidi_Mirrored", "Bidi_M"], runs :=
      "40N2Y18N1Y1N1Y28N1Y1N1Y29N1Y1N1Y45N1Y15N1Y3710N4Y1885N2Y2460N2Y10N2Y54N2Y14N2Y177N1Y192N4Y3N6Y3N1Y3N2Y3N4Y
      1N4Y1N1Y1N1Y4N9Y5N1Y1N18Y5N4Y9N2Y1N1Y1N8Y1N32Y2N4Y5N1Y9N2Y2N19Y5N2Y9N5Y2N2Y4N24Y2N16Y8N4Y20N2Y7N2Y1085N14Y
      74N1Y2N4Y1N2Y1N3Y5N4Y5N3Y3N14Y403N22Y2N6Y1N14Y8N1Y7N6Y3N1Y4N5Y1N2Y2N5Y4N1Y1N3Y2N2Y10N6Y2N2Y12N19Y1N4Y2N1Y1
      N1Y2N1Y1N4Y5N2Y6N3Y24N2Y11N2Y4N4Y1N2Y2N2Y4N43Y2N8Y1N40Y5N1Y1N1Y3N5Y5N3Y4N1Y3N5Y1N1Y256N1Y515N4Y3N2Y1N2Y14N
      2Y2N10Y43N8Y427N10Y2N8Y52797N6Y5N2Y162N2Y18N1Y1N1Y28N1Y1N1Y29N1Y1N1Y1N2Y1N2Y55159N1Y57N1Y57N1Y57N1Y57N1Y99
      3340N" },
   { names := ["Case_Ignorable", "CI"], runs :=
      "39N1Y6N1Y11N1Y35N1Y1N1Y71N1Y4N1Y1N1Y4N1Y2N2Y503N192Y4N2Y4N1Y9N2Y1N1Y251N7Y207N1Y5N1Y49N45Y1N1Y1N2Y1N2Y1N1Y
      44N1Y11N6Y10N11Y1N1Y35N1Y10N21Y16N1Y101N8Y1N10Y1N4Y33N1Y1N1Y30N27Y91N11Y58N11Y4N1Y2N1Y24N24Y43N3Y44N1Y7N2Y
      5N9Y41N58Y55N1Y1N1Y4N8Y4N1Y3N7Y10N2Y13N1Y15N1Y58N1Y4N4Y8N1Y20N2Y26N1Y2N2Y57N1Y4N2Y4N2Y2N3Y3N1Y30N2Y3N1Y11N
      2Y57N1Y4N5Y1N2Y4N1Y20N2Y22N6Y1N1Y58N1Y2N1Y1N4Y8N1Y7N2Y11N2Y30N1Y61N1Y12N1Y50N1Y3N1Y55N1Y1N3Y5N3Y1N4Y7N2Y11
      N2Y29N1Y58N1Y2N1Y6N1Y5N2Y20N2Y28N2Y57N2Y4N4Y8N1Y20N2Y29N1Y72N1Y7N3Y1N1Y90N1Y2N7Y11N9Y98N1Y2N9Y9N1Y1N7Y73N2
      Y27N1Y1N1Y1N1Y55N14Y1N5Y1N2Y5N11Y1N36Y9N1Y102N4Y1N6Y1N2Y2N2Y25N2Y4N3Y16N4Y13N1Y2N2Y6N1Y15N1Y94N1Y608N3Y946
      N3Y29N2Y30N2Y30N2Y64N2Y1N7Y8N1Y2N11Y3N1Y5N1Y45N5Y51N1Y65N2Y34N1Y118N3Y4N2Y9N1Y6N3Y219N2Y2N1Y58N1Y1N7Y1N1Y1
      N1Y2N8Y6N10Y2N1Y39N1Y8N46Y2N12Y20N4Y48N1Y1N5Y1N1Y5N1Y40N9Y12N2Y32N4Y2N2Y1N3Y56N1Y1N2Y3N1Y1N3Y58N8Y2N2Y64N6
      Y82N3Y1N13Y1N7Y4N1Y6N1Y3N2Y50N63Y13N1Y34N101Y445N1Y1N3Y11N3Y13N3Y13N3Y13N2Y12N5Y8N2Y10N1Y2N1Y2N5Y49N5Y1N10
      Y1N1Y13N1Y16N13Y51N33Y2955N2Y113N3Y125N1Y15N1Y96N32Y47N1Y469N1Y36N4Y3N5Y5N1Y93N6Y93N3Y28438N1Y1250N6Y270N1
      Y98N4Y1N10Y1N1Y28N4Y80N2Y14N34Y78N1Y23N3Y102N4Y3N2Y8N1Y3N1Y4N1Y25N2Y5N1Y151N2Y26N18Y13N1Y38N8Y25N11Y46N3Y4
      8N1Y2N4Y2N2Y17N1Y21N2Y66N6Y2N2Y2N2Y12N1Y8N1Y35N1Y11N1Y51N1Y1N3Y2N2Y5N2Y1N1Y27N1Y14N2Y5N2Y1N1Y100N5Y9N3Y121
      N1Y2N1Y4N1Y20272N1Y147N17Y573N16Y3N1Y12N16Y34N1Y2N1Y169N1Y7N1Y6N1Y11N1Y35N1Y1N1Y47N1Y45N2Y67N1Y21N3Y513N1Y
      226N1Y149N5Y1029N6Y1N42Y1N9Y582N3Y1N2Y5N4Y40N3Y4N1Y165N2Y573N4Y38N1Y26N5Y1N1Y315N2Y24N1Y52N6Y70N11Y49N4Y12
      3N1Y54N15Y41N1Y2N2Y10N3Y49N4Y2N2Y2N1Y4N1Y10N1Y50N3Y36N5Y1N8Y62N1Y12N2Y52N9Y10N4Y2N1Y95N3Y2N1Y1N2Y6N1Y2N1Y1
      57N1Y3N8Y21N2Y57N2Y3N1Y37N7Y3N5Y70N6Y13N1Y1N1Y1N1Y14N2Y85N8Y2N3Y1N1Y23N1Y84N6Y1N1Y4N2Y1N2Y238N4Y6N2Y1N2Y27
      N2Y85N8Y2N1Y1N2Y106N1Y1N1Y2N6Y1N1Y101N1Y1N1Y2N4Y1N5Y259N9Y1N2Y256N2Y1N1Y4N1Y144N4Y2N2Y4N1Y32N10Y40N6Y2N4Y8
      N1Y9N6Y2N3Y46N13Y1N2Y198N1Y1N3Y1N1Y201N7Y1N6Y1N1Y82N22Y2N7Y1N2Y1N2Y122N6Y3N1Y1N2Y1N7Y1N1Y72N2Y3N1Y1N1Y65N1
      Y281N2Y11N2Y52N5Y5N1Y1N1Y23N1Y5333N17Y6N15Y11464N12Y3N3Y2496N5Y59N7Y9N4Y508N3Y40N2Y482N1Y63N17Y64N2Y1N2Y13
      N2Y16380N4Y1N7Y1N2Y3230N2Y1N4Y4700N46Y2N23Y544N3Y9N16Y2N7Y30N4Y148N3Y1979N55Y4N50Y8N1Y14N1Y22N5Y1N15Y1360N
      7Y1N17Y2N7Y1N2Y1N5Y5N62Y33N1Y160N14Y368N1Y61N4Y507N5Y254N2Y243N1Y2N1Y7N2Y5N1Y9N1Y464N7Y109N8Y2735N5Y789505
      N1Y30N96Y128N240Y196112N" },
   { names := ["Cased"], runs :=
      "65N26Y6N26Y47N1Y10N1Y4N1Y5N23Y1N31Y1N195Y1N4Y4N208Y2N35Y7N2Y30N5Y96N1Y42N4Y2N2Y2N4Y1N1Y6N1Y1N3Y1N1Y1N20Y1N
      83Y1N139Y8N166Y1N38Y9N41Y2839N38Y1N1Y5N1Y2N43Y1N4Y672N86Y2N6Y2178N11Y5N43Y2N3Y64N192Y64N278Y2N6Y2N38Y2N6Y2
      N8Y1N1Y1N1Y1N1Y1N31Y2N53Y1N7Y1N1Y3N3Y1N7Y3N4Y2N6Y4N13Y5N3Y1N7Y116N1Y13N1Y16N13Y101N1Y4N1Y2N10Y1N1Y3N5Y6N1Y
      1N1Y1N1Y1N4Y1N6Y4N1Y2N4Y5N5Y4N1Y17N32Y3N2Y817N52Y1814N229Y6N4Y3N2Y12N38Y1N1Y5N1Y30994N46Y18N30Y132N102Y3N4
      Y1N77Y20N6Y1N3Y821N43Y1N14Y6N80Y20288N7Y12N5Y1033N26Y6N26Y1189N80Y96N36Y4N36Y116N11Y1N15Y1N7Y1N2Y1N11Y1N15
      Y1N7Y1N2Y451N1Y2N3Y1N42Y1N9Y1221N51Y13N51Y93N22Y10N22Y2842N64Y21856N64Y32N25Y2N25Y25900N85Y1N71Y1N2Y2N1Y2N
      2Y2N4Y1N12Y1N1Y1N7Y1N65Y1N4Y2N8Y1N7Y1N28Y1N4Y1N5Y1N1Y3N7Y1N340Y2N25Y1N25Y1N31Y1N25Y1N31Y1N25Y1N31Y1N25Y1N3
      1Y1N25Y1N8Y1844N10Y1N20Y6N6Y261N62Y2194N68Y2028N26Y6N26Y6N26Y986742N" },
   { names := ["Changes_When_Casefolded", "CWCF"], runs :=
      "65N26Y90N1Y10N23Y1N8Y32N1Y1N1Y1N1Y1N1Y1N1Y1N1Y1N1Y1N1Y1N1Y1N1Y1N1Y1N1Y1N1Y1N1Y1N1Y1N1Y1N1Y1N1Y1N1Y1N1Y1N1Y
      1N1Y1N1Y1N1Y1N1Y1N1Y1N1Y1N1Y2N1Y1N1Y1N1Y1N1Y1N1Y1N1Y1N1Y1N1Y1N2Y1N1Y1N1Y1N1Y1N1Y1N1Y1N1Y1N1Y1N1Y1N1Y1N1Y1N
      1Y1N1Y1N1Y1N1Y1N1Y1N1Y1N1Y1N1Y1N1Y1N1Y1N1Y1N1Y1N2Y1N1Y1N1Y1N1Y1N2Y1N1Y1N2Y1N3Y2N4Y1N2Y1N3Y3N2Y1N2Y1N1Y1N1Y
      1N2Y1N1Y2N1Y1N2Y1N3Y1N1Y1N2Y3N1Y7N2Y1N2Y1N2Y1N1Y1N1Y1N1Y1N1Y1N1Y1N1Y1N1Y1N1Y2N1Y1N1Y1N1Y1N1Y1N1Y1N1Y1N1Y1N
      1Y1N1Y2N2Y1N1Y1N3Y1N1Y1N1Y1N1Y1N1Y1N1Y1N1Y1N1Y1N1Y1N1Y1N1Y1N1Y1N1Y1N1Y1N1Y1N1Y1N1Y1N1Y1N1Y1N1Y1N1Y1N1Y1N1Y
      1N1Y1N1Y1N1Y1N1Y1N1Y1N1Y1N1Y7N2Y1N2Y2N1Y1N4Y1N1Y1N1Y1N1Y1N1Y246N1Y42N1Y1N1Y3N1Y8N1Y6N1Y1N3Y1N1Y1N2Y1N17Y1N
      9Y22N1Y12N3Y3N2Y1N1Y1N1Y1N1Y1N1Y1N1Y1N1Y1N1Y1N1Y1N1Y1N1Y1N1Y1N1Y1N2Y2N2Y1N1Y1N2Y2N51Y48N1Y1N1Y1N1Y1N1Y1N1Y
      1N1Y1N1Y1N1Y1N1Y1N1Y1N1Y1N1Y1N1Y1N1Y1N1Y1N1Y1N1Y9N1Y1N1Y1N1Y1N1Y1N1Y1N1Y1N1Y1N1Y1N1Y1N1Y1N1Y1N1Y1N1Y1N1Y1N
      1Y1N1Y1N1Y1N1Y1N1Y1N1Y1N1Y1N1Y1N1Y1N1Y1N1Y1N1Y1N1Y1N2Y1N1Y1N1Y1N1Y1N1Y1N1Y1N1Y2N1Y1N1Y1N1Y1N1Y1N1Y1N1Y1N1Y
      1N1Y1N1Y1N1Y1N1Y1N1Y1N1Y1N1Y1N1Y1N1Y1N1Y1N1Y1N1Y1N1Y1N1Y1N1Y1N1Y1N1Y1N1Y1N1Y1N1Y1N1Y1N1Y1N1Y1N1Y1N1Y1N1Y1N
      1Y1N1Y1N1Y1N1Y1N1Y1N1Y1N1Y1N1Y1N1Y1N1Y1N1Y1N1Y1N1Y1N1Y1N1Y2N38Y48N1Y2840N38Y1N1Y5N1Y810N6Y2178N10Y6N43Y2N3
      Y320N1Y1N1Y1N1Y1N1Y1N1Y1N1Y1N1Y1N1Y1N1Y1N1Y1N1Y1N1Y1N1Y1N1Y1N1Y1N1Y1N1Y1N1Y1N1Y1N1Y1N1Y1N1Y1N1Y1N1Y1N1Y1N1
      Y1N1Y1N1Y1N1Y1N1Y1N1Y1N1Y1N1Y1N1Y1N1Y1N1Y1N1Y1N1Y1N1Y1N1Y1N1Y1N1Y1N1Y1N1Y1N1Y1N1Y1N1Y1N1Y1N1Y1N1Y1N1Y1N1Y1
      N1Y1N1Y1N1Y1N1Y1N1Y1N1Y1N1Y1N1Y1N1Y1N1Y1N1Y1N1Y1N1Y1N1Y1N1Y1N1Y1N1Y1N1Y1N1Y1N1Y1N1Y1N1Y1N1Y5N2Y2N1Y1N1Y1N1
      Y1N1Y1N1Y1N1Y1N1Y1N1Y1N1Y1N1Y1N1Y1N1Y1N1Y1N1Y1N1Y1N1Y1N1Y1N1Y1N1Y1N1Y1N1Y1N1Y1N1Y1N1Y1N1Y1N1Y1N1Y1N1Y1N1Y1
      N1Y1N1Y1N1Y1N1Y1N1Y1N1Y1N1Y1N1Y1N1Y1N1Y1N1Y1N1Y1N1Y1N1Y1N1Y1N1Y1N1Y1N1Y1N1Y1N1Y9N8Y8N6Y10N8Y8N8Y8N6Y11N1Y1
      N1Y1N1Y1N1Y8N8Y16N48Y2N3Y2N6Y5N3Y2N6Y11N4Y12N5Y5N3Y2N6Y297N1Y3N2Y6N1Y45N16Y19N1Y818N26Y1840N48Y48N1Y1N3Y2N
      1Y1N1Y1N1Y1N4Y1N1Y2N1Y8N3Y1N1Y1N1Y1N1Y1N1Y1N1Y1N1Y1N1Y1N1Y1N1Y1N1Y1N1Y1N1Y1N1Y1N1Y1N1Y1N1Y1N1Y1N1Y1N1Y1N1Y
      1N1Y1N1Y1N1Y1N1Y1N1Y1N1Y1N1Y1N1Y1N1Y1N1Y1N1Y1N1Y1N1Y1N1Y1N1Y1N1Y1N1Y1N1Y1N1Y1N1Y1N1Y1N1Y1N1Y1N1Y1N1Y1N1Y1N
      1Y1N1Y1N1Y8N1Y1N1Y4N1Y31053N1Y1N1Y1N1Y1N1Y1N1Y1N1Y1N1Y1N1Y1N1Y1N1Y1N1Y1N1Y1N1Y1N1Y1N1Y1N1Y1N1Y1N1Y1N1Y1N1Y
      1N1Y1N1Y1N1Y19N1Y1N1Y1N1Y1N1Y1N1Y1N1Y1N1Y1N1Y1N1Y1N1Y1N1Y1N1Y1N1Y1N1Y135N1Y1N1Y1N1Y1N1Y1N1Y1N1Y1N1Y3N1Y1N1
      Y1N1Y1N1Y1N1Y1N1Y1N1Y1N1Y1N1Y1N1Y1N1Y1N1Y1N1Y1N1Y1N1Y1N1Y1N1Y1N1Y1N1Y1N1Y1N1Y1N1Y1N1Y1N1Y1N1Y1N1Y1N1Y1N1Y1
      N1Y1N1Y1N1Y10N1Y1N1Y1N2Y1N1Y1N1Y1N1Y1N1Y4N1Y1N1Y2N1Y1N1Y3N1Y1N1Y1N1Y1N1Y1N1Y1N1Y1N1Y1N1Y1N1Y1N1Y1N5Y1N5Y1N
      1Y1N1Y1N1Y1N1Y1N1Y1N1Y1N1Y1N4Y1N1Y1N2Y1N1Y1N1Y1N1Y1N1Y1N1Y1N1Y1N1Y1N1Y24N1Y890N80Y20288N7Y12N5Y1033N26Y122
      1N40Y136N36Y156N11Y1N15Y1N7Y1N2Y1770N51Y157N22Y2874N32Y21888N32Y64N25Y31303N34Y988894N" },
   { names := ["Changes_When_Casemapped", "CWCM"], runs :=
      "65N26Y6N26Y58N1Y10N23Y1N31Y1N64Y1N84Y1N28Y2N14Y2N2Y1N1Y4N93Y1N18Y6N27Y1N2Y1N1Y1N2Y3N2Y1N4Y1N5Y2N1Y1N2Y2N1Y
      7N1Y2N1Y1N2Y3N6Y5N1Y10N2Y166N1Y42N4Y2N2Y3N3Y1N1Y6N1Y1N3Y1N1Y1N20Y1N47Y3N33Y1N5Y1N133Y8N166Y1N38Y10N39Y2840
      N38Y1N1Y5N1Y2N43Y2N3Y672N86Y2N6Y2178N11Y5N43Y2N3Y185N1Y3N1Y16N1Y113N156Y2N1Y1N118Y2N6Y2N38Y2N6Y2N8Y1N1Y1N1
      Y1N1Y1N31Y2N53Y1N7Y1N1Y3N3Y1N7Y3N4Y2N6Y4N13Y5N3Y1N7Y297N1Y3N2Y6N1Y27N1Y17N32Y3N2Y817N52Y1814N113Y1N2Y1N2Y7
      N102Y7N4Y3N2Y12N38Y1N1Y5N1Y30994N46Y18N28Y134N14Y2N62Y9N15Y3N3Y2N5Y1N25Y1N45Y24N2Y860N1Y28N80Y20288N7Y12N5
      Y1033N26Y6N26Y1189N80Y96N36Y4N36Y116N11Y1N15Y1N7Y1N2Y1N11Y1N15Y1N7Y1N2Y1731N51Y13N51Y93N22Y10N22Y2842N64Y2
      1856N64Y32N25Y2N25Y31276N68Y988860N" },
   { names := ["Changes_When_Lowercased", "CWL"], runs :=
      "65N26Y101N23Y1N7Y33N1Y1N1Y1N1Y1N1Y1N1Y1N1Y1N1Y1N1Y1N1Y1N1Y1N1Y1N1Y1N1Y1N1Y1N1Y1N1Y1N1Y1N1Y1N1Y1N1Y1N1Y1N1Y
      1N1Y1N1Y1N1Y1N1Y1N1Y1N1Y2N1Y1N1Y1N1Y1N1Y1N1Y1N1Y1N1Y1N1Y2N1Y1N1Y1N1Y1N1Y1N1Y1N1Y1N1Y1N1Y1N1Y1N1Y1N1Y1N1Y1N
      1Y1N1Y1N1Y1N1Y1N1Y1N1Y1N1Y1N1Y1N1Y1N1Y1N1Y1N2Y1N1Y1N1Y3N2Y1N1Y1N2Y1N3Y2N4Y1N2Y1N3Y3N2Y1N2Y1N1Y1N1Y1N2Y1N1Y
      2N1Y1N2Y1N3Y1N1Y1N2Y3N1Y7N2Y1N2Y1N2Y1N1Y1N1Y1N1Y1N1Y1N1Y1N1Y1N1Y1N1Y2N1Y1N1Y1N1Y1N1Y1N1Y1N1Y1N1Y1N1Y1N1Y2N
      2Y1N1Y1N3Y1N1Y1N1Y1N1Y1N1Y1N1Y1N1Y1N1Y1N1Y1N1Y1N1Y1N1Y1N1Y1N1Y1N1Y1N1Y1N1Y1N1Y1N1Y1N1Y1N1Y1N1Y1N1Y1N1Y1N1Y
      1N1Y1N1Y1N1Y1N1Y1N1Y7N2Y1N2Y2N1Y1N4Y1N1Y1N1Y1N1Y1N1Y289N1Y1N1Y3N1Y8N1Y6N1Y1N3Y1N1Y1N2Y1N17Y1N9Y35N1Y8N1Y1N
      1Y1N1Y1N1Y1N1Y1N1Y1N1Y1N1Y1N1Y1N1Y1N1Y1N1Y5N1Y2N1Y1N2Y2N51Y48N1Y1N1Y1N1Y1N1Y1N1Y1N1Y1N1Y1N1Y1N1Y1N1Y1N1Y1N
      1Y1N1Y1N1Y1N1Y1N1Y1N1Y9N1Y1N1Y1N1Y1N1Y1N1Y1N1Y1N1Y1N1Y1N1Y1N1Y1N1Y1N1Y1N1Y1N1Y1N1Y1N1Y1N1Y1N1Y1N1Y1N1Y1N1Y
      1N1Y1N1Y1N1Y1N1Y1N1Y1N1Y1N2Y1N1Y1N1Y1N1Y1N1Y1N1Y1N1Y2N1Y1N1Y1N1Y1N1Y1N1Y1N1Y1N1Y1N1Y1N1Y1N1Y1N1Y1N1Y1N1Y1N
      1Y1N1Y1N1Y1N1Y1N1Y1N1Y1N1Y1N1Y1N1Y1N1Y1N1Y1N1Y1N1Y1N1Y1N1Y1N1Y1N1Y1N1Y1N1Y1N1Y1N1Y1N1Y1N1Y1N1Y1N1Y1N1Y1N1Y
      1N1Y1N1Y1N1Y1N1Y1N1Y1N1Y1N1Y1N1Y2N38Y2889N38Y1N1Y5N1Y722N86Y2195N1Y6N43Y2N3Y320N1Y1N1Y1N1Y1N1Y1N1Y1N1Y1N1Y
      1N1Y1N1Y1N1Y1N1Y1N1Y1N1Y1N1Y1N1Y1N1Y1N1Y1N1Y1N1Y1N1Y1N1Y1N1Y1N1Y1N1Y1N1Y1N1Y1N1Y1N1Y1N1Y1N1Y1N1Y1N1Y1N1Y1N
      1Y1N1Y1N1Y1N1Y1N1Y1N1Y1N1Y1N1Y1N1Y1N1Y1N1Y1N1Y1N1Y1N1Y1N1Y1N1Y1N1Y1N1Y1N1Y1N1Y1N1Y1N1Y1N1Y1N1Y1N1Y1N1Y1N1Y
      1N1Y1N1Y1N1Y1N1Y1N1Y1N1Y1N1Y1N1Y1N1Y1N1Y1N1Y1N1Y1N1Y1N1Y1N1Y9N1Y1N1Y1N1Y1N1Y1N1Y1N1Y1N1Y1N1Y1N1Y1N1Y1N1Y1N
      1Y1N1Y1N1Y1N1Y1N1Y1N1Y1N1Y1N1Y1N1Y1N1Y1N1Y1N1Y1N1Y1N1Y1N1Y1N1Y1N1Y1N1Y1N1Y1N1Y1N1Y1N1Y1N1Y1N1Y1N1Y1N1Y1N1Y
      1N1Y1N1Y1N1Y1N1Y1N1Y1N1Y1N1Y1N1Y1N1Y1N1Y1N1Y9N8Y8N6Y10N8Y8N8Y8N6Y11N1Y1N1Y1N1Y1N1Y8N8Y24N8Y8N8Y8N8Y8N5Y11N
      5Y11N4Y12N5Y11N5Y297N1Y3N2Y6N1Y45N16Y19N1Y818N26Y1840N48Y48N1Y1N3Y2N1Y1N1Y1N1Y1N4Y1N1Y2N1Y8N3Y1N1Y1N1Y1N1Y
      1N1Y1N1Y1N1Y1N1Y1N1Y1N1Y1N1Y1N1Y1N1Y1N1Y1N1Y1N1Y1N1Y1N1Y1N1Y1N1Y1N1Y1N1Y1N1Y1N1Y1N1Y1N1Y1N1Y1N1Y1N1Y1N1Y1N
      1Y1N1Y1N1Y1N1Y1N1Y1N1Y1N1Y1N1Y1N1Y1N1Y1N1Y1N1Y1N1Y1N1Y1N1Y1N1Y1N1Y1N1Y1N1Y1N1Y8N1Y1N1Y4N1Y31053N1Y1N1Y1N1Y
      1N1Y1N1Y1N1Y1N1Y1N1Y1N1Y1N1Y1N1Y1N1Y1N1Y1N1Y1N1Y1N1Y1N1Y1N1Y1N1Y1N1Y1N1Y1N1Y1N1Y19N1Y1N1Y1N1Y1N1Y1N1Y1N1Y1
      N1Y1N1Y1N1Y1N1Y1N1Y1N1Y1N1Y1N1Y135N1Y1N1Y1N1Y1N1Y1N1Y1N1Y1N1Y3N1Y1N1Y1N1Y1N1Y1N1Y1N1Y1N1Y1N1Y1N1Y1N1Y1N1Y1
      N1Y1N1Y1N1Y1N1Y1N1Y1N1Y1N1Y1N1Y1N1Y1N1Y1N1Y1N1Y1N1Y1N1Y1N1Y1N1Y1N1Y1N1Y1N1Y1N1Y10N1Y1N1Y1N2Y1N1Y1N1Y1N1Y1N
      1Y4N1Y1N1Y2N1Y1N1Y3N1Y1N1Y1N1Y1N1Y1N1Y1N1Y1N1Y1N1Y1N1Y1N1Y1N5Y1N5Y1N1Y1N1Y1N1Y1N1Y1N1Y1N1Y1N1Y1N4Y1N1Y1N2Y
      1N1Y1N1Y1N1Y1N1Y1N1Y1N1Y1N1Y1N1Y24N1Y22315N26Y1221N40Y136N36Y156N11Y1N15Y1N7Y1N2Y1770N51Y157N22Y2874N32Y21
      888N32Y64N25Y31303N34Y988894N" },
   { names := ["Changes_When_Titlecased", "CWT"], runs :=
      "97N26Y58N1Y41N24Y1N8Y1N1Y1N1Y1N1Y1N1Y1N1Y1N1Y1N1Y1N1Y1N1Y1N1Y1N1Y1N1Y1N1Y1N1Y1N1Y1N1Y1N1Y1N1Y1N1Y1N1Y1N1Y1
      N1Y1N1Y1N1Y1N1Y1N1Y1N1Y1N1Y2N1Y1N1Y1N1Y1N1Y1N1Y1N1Y1N1Y1N2Y1N1Y1N1Y1N1Y1N1Y1N1Y1N1Y1N1Y1N1Y1N1Y1N1Y1N1Y1N1
      Y1N1Y1N1Y1N1Y1N1Y1N1Y1N1Y1N1Y1N1Y1N1Y1N1Y1N1Y2N1Y1N1Y1N3Y2N1Y1N1Y2N1Y3N1Y5N1Y2N1Y3N3Y2N1Y2N1Y1N1Y1N1Y2N1Y4
      N1Y2N1Y3N1Y1N1Y2N1Y3N1Y1N1Y4N1Y1N2Y1N2Y1N1Y1N1Y1N1Y1N1Y1N1Y1N1Y1N1Y1N1Y1N2Y1N1Y1N1Y1N1Y1N1Y1N1Y1N1Y1N1Y1N1
      Y1N3Y1N1Y1N1Y3N1Y1N1Y1N1Y1N1Y1N1Y1N1Y1N1Y1N1Y1N1Y1N1Y1N1Y1N1Y1N1Y1N1Y1N1Y1N1Y1N1Y1N1Y1N1Y1N1Y3N1Y1N1Y1N1Y1
      N1Y1N1Y1N1Y1N1Y1N1Y1N1Y8N1Y2N2Y1N1Y4N1Y1N1Y1N1Y1N1Y1N6Y1N2Y1N1Y1N2Y3N2Y1N4Y1N5Y2N1Y1N2Y2N1Y7N1Y2N1Y1N2Y3N6
      Y5N1Y10N2Y166N1Y43N1Y1N1Y3N1Y3N3Y18N1Y27N35Y1N2Y3N3Y1N1Y1N1Y1N1Y1N1Y1N1Y1N1Y1N1Y1N1Y1N1Y1N1Y1N1Y1N5Y1N1Y2N
      1Y2N1Y52N48Y1N1Y1N1Y1N1Y1N1Y1N1Y1N1Y1N1Y1N1Y1N1Y1N1Y1N1Y1N1Y1N1Y1N1Y1N1Y1N1Y1N1Y9N1Y1N1Y1N1Y1N1Y1N1Y1N1Y1N
      1Y1N1Y1N1Y1N1Y1N1Y1N1Y1N1Y1N1Y1N1Y1N1Y1N1Y1N1Y1N1Y1N1Y1N1Y1N1Y1N1Y1N1Y1N1Y1N1Y1N1Y2N1Y1N1Y1N1Y1N1Y1N1Y1N1Y
      1N2Y1N1Y1N1Y1N1Y1N1Y1N1Y1N1Y1N1Y1N1Y1N1Y1N1Y1N1Y1N1Y1N1Y1N1Y1N1Y1N1Y1N1Y1N1Y1N1Y1N1Y1N1Y1N1Y1N1Y1N1Y1N1Y1N
      1Y1N1Y1N1Y1N1Y1N1Y1N1Y1N1Y1N1Y1N1Y1N1Y1N1Y1N1Y1N1Y1N1Y1N1Y1N1Y1N1Y1N1Y1N1Y1N1Y1N1Y1N1Y1N1Y49N39Y3696N6Y217
      8N9Y1N1Y238N1Y3N1Y16N1Y114N1Y1N1Y1N1Y1N1Y1N1Y1N1Y1N1Y1N1Y1N1Y1N1Y1N1Y1N1Y1N1Y1N1Y1N1Y1N1Y1N1Y1N1Y1N1Y1N1Y1
      N1Y1N1Y1N1Y1N1Y1N1Y1N1Y1N1Y1N1Y1N1Y1N1Y1N1Y1N1Y1N1Y1N1Y1N1Y1N1Y1N1Y1N1Y1N1Y1N1Y1N1Y1N1Y1N1Y1N1Y1N1Y1N1Y1N1
      Y1N1Y1N1Y1N1Y1N1Y1N1Y1N1Y1N1Y1N1Y1N1Y1N1Y1N1Y1N1Y1N1Y1N1Y1N1Y1N1Y1N1Y1N1Y1N1Y1N1Y1N1Y1N1Y1N1Y1N1Y1N1Y1N1Y1
      N1Y1N7Y5N1Y1N1Y1N1Y1N1Y1N1Y1N1Y1N1Y1N1Y1N1Y1N1Y1N1Y1N1Y1N1Y1N1Y1N1Y1N1Y1N1Y1N1Y1N1Y1N1Y1N1Y1N1Y1N1Y1N1Y1N1
      Y1N1Y1N1Y1N1Y1N1Y1N1Y1N1Y1N1Y1N1Y1N1Y1N1Y1N1Y1N1Y1N1Y1N1Y1N1Y1N1Y1N1Y1N1Y1N1Y1N1Y1N1Y1N1Y1N9Y8N6Y10N8Y8N8Y
      8N6Y10N8Y8N8Y8N14Y2N8Y8N8Y8N8Y8N5Y1N2Y6N1Y3N3Y1N2Y8N4Y2N2Y8N8Y10N3Y1N2Y342N1Y33N16Y4N1Y843N26Y1862N48Y1N1Y
      3N2Y1N1Y1N1Y1N1Y6N1Y2N1Y10N1Y1N1Y1N1Y1N1Y1N1Y1N1Y1N1Y1N1Y1N1Y1N1Y1N1Y1N1Y1N1Y1N1Y1N1Y1N1Y1N1Y1N1Y1N1Y1N1Y1
      N1Y1N1Y1N1Y1N1Y1N1Y1N1Y1N1Y1N1Y1N1Y1N1Y1N1Y1N1Y1N1Y1N1Y1N1Y1N1Y1N1Y1N1Y1N1Y1N1Y1N1Y1N1Y1N1Y1N1Y1N1Y1N1Y1N1
      Y1N1Y1N1Y1N1Y8N1Y1N1Y4N1Y12N38Y1N1Y5N1Y30995N1Y1N1Y1N1Y1N1Y1N1Y1N1Y1N1Y1N1Y1N1Y1N1Y1N1Y1N1Y1N1Y1N1Y1N1Y1N1
      Y1N1Y1N1Y1N1Y1N1Y1N1Y1N1Y1N1Y19N1Y1N1Y1N1Y1N1Y1N1Y1N1Y1N1Y1N1Y1N1Y1N1Y1N1Y1N1Y1N1Y1N1Y135N1Y1N1Y1N1Y1N1Y1N
      1Y1N1Y1N1Y3N1Y1N1Y1N1Y1N1Y1N1Y1N1Y1N1Y1N1Y1N1Y1N1Y1N1Y1N1Y1N1Y1N1Y1N1Y1N1Y1N1Y1N1Y1N1Y1N1Y1N1Y1N1Y1N1Y1N1Y
      1N1Y1N1Y1N1Y1N1Y1N1Y1N1Y1N1Y10N1Y1N1Y2N1Y1N1Y1N1Y1N1Y1N1Y4N1Y4N1Y1N2Y2N1Y1N1Y1N1Y1N1Y1N1Y1N1Y1N1Y1N1Y1N1Y1
      N1Y11N1Y1N1Y1N1Y1N1Y1N1Y1N1Y1N1Y1N1Y4N1Y1N1Y2N1Y1N1Y1N1Y1N1Y1N1Y1N1Y1N1Y1N1Y26N1Y860N1Y28N80Y20288N7Y12N5Y
      1065N26Y1229N40Y136N36Y155N11Y1N15Y1N7Y1N2Y1795N51Y125N22Y2874N32Y21888N32Y59N25Y31310N34Y988860N" },
   { names := ["Changes_When_Uppercased", "CWU"], runs :=
      "97N26Y58N1Y41N24Y1N8Y1N1Y1N1Y1N1Y1N1Y1N1Y1N1Y1N1Y1N1Y1N1Y1N1Y1N1Y1N1Y1N1Y1N1Y1N1Y1N1Y1N1Y1N1Y1N1Y1N1Y1N1Y1
      N1Y1N1Y1N1Y1N1Y1N1Y1N1Y1N1Y2N1Y1N1Y1N1Y1N1Y1N1Y1N1Y1N1Y1N2Y1N1Y1N1Y1N1Y1N1Y1N1Y1N1Y1N1Y1N1Y1N1Y1N1Y1N1Y1N1
      Y1N1Y1N1Y1N1Y1N1Y1N1Y1N1Y1N1Y1N1Y1N1Y1N1Y1N1Y2N1Y1N1Y1N3Y2N1Y1N1Y2N1Y3N1Y5N1Y2N1Y3N3Y2N1Y2N1Y1N1Y1N1Y2N1Y4
      N1Y2N1Y3N1Y1N1Y2N1Y3N1Y1N1Y5N2Y1N2Y1N2Y1N1Y1N1Y1N1Y1N1Y1N1Y1N1Y1N1Y1N2Y1N1Y1N1Y1N1Y1N1Y1N1Y1N1Y1N1Y1N1Y1N2
      Y1N2Y1N1Y3N1Y1N1Y1N1Y1N1Y1N1Y1N1Y1N1Y1N1Y1N1Y1N1Y1N1Y1N1Y1N1Y1N1Y1N1Y1N1Y1N1Y1N1Y1N1Y1N1Y3N1Y1N1Y1N1Y1N1Y1
      N1Y1N1Y1N1Y1N1Y1N1Y8N1Y2N2Y1N1Y4N1Y1N1Y1N1Y1N1Y1N6Y1N2Y1N1Y1N2Y3N2Y1N4Y1N5Y2N1Y1N2Y2N1Y7N1Y2N1Y1N2Y3N6Y5N1
      Y10N2Y166N1Y43N1Y1N1Y3N1Y3N3Y18N1Y27N35Y1N2Y3N3Y1N1Y1N1Y1N1Y1N1Y1N1Y1N1Y1N1Y1N1Y1N1Y1N1Y1N1Y1N5Y1N1Y2N1Y2N
      1Y52N48Y1N1Y1N1Y1N1Y1N1Y1N1Y1N1Y1N1Y1N1Y1N1Y1N1Y1N1Y1N1Y1N1Y1N1Y1N1Y1N1Y1N1Y9N1Y1N1Y1N1Y1N1Y1N1Y1N1Y1N1Y1N
      1Y1N1Y1N1Y1N1Y1N1Y1N1Y1N1Y1N1Y1N1Y1N1Y1N1Y1N1Y1N1Y1N1Y1N1Y1N1Y1N1Y1N1Y1N1Y1N1Y2N1Y1N1Y1N1Y1N1Y1N1Y1N1Y1N2Y
      1N1Y1N1Y1N1Y1N1Y1N1Y1N1Y1N1Y1N1Y1N1Y1N1Y1N1Y1N1Y1N1Y1N1Y1N1Y1N1Y1N1Y1N1Y1N1Y1N1Y1N1Y1N1Y1N1Y1N1Y1N1Y1N1Y1N
      1Y1N1Y1N1Y1N1Y1N1Y1N1Y1N1Y1N1Y1N1Y1N1Y1N1Y1N1Y1N1Y1N1Y1N1Y1N1Y1N1Y1N1Y1N1Y1N1Y1N1Y1N1Y49N39Y2888N43Y2N3Y76
      0N6Y2178N9Y1N1Y238N1Y3N1Y16N1Y114N1Y1N1Y1N1Y1N1Y1N1Y1N1Y1N1Y1N1Y1N1Y1N1Y1N1Y1N1Y1N1Y1N1Y1N1Y1N1Y1N1Y1N1Y1N
      1Y1N1Y1N1Y1N1Y1N1Y1N1Y1N1Y1N1Y1N1Y1N1Y1N1Y1N1Y1N1Y1N1Y1N1Y1N1Y1N1Y1N1Y1N1Y1N1Y1N1Y1N1Y1N1Y1N1Y1N1Y1N1Y1N1Y
      1N1Y1N1Y1N1Y1N1Y1N1Y1N1Y1N1Y1N1Y1N1Y1N1Y1N1Y1N1Y1N1Y1N1Y1N1Y1N1Y1N1Y1N1Y1N1Y1N1Y1N1Y1N1Y1N1Y1N1Y1N1Y1N1Y1N
      1Y1N1Y1N1Y1N7Y5N1Y1N1Y1N1Y1N1Y1N1Y1N1Y1N1Y1N1Y1N1Y1N1Y1N1Y1N1Y1N1Y1N1Y1N1Y1N1Y1N1Y1N1Y1N1Y1N1Y1N1Y1N1Y1N1Y
      1N1Y1N1Y1N1Y1N1Y1N1Y1N1Y1N1Y1N1Y1N1Y1N1Y1N1Y1N1Y1N1Y1N1Y1N1Y1N1Y1N1Y1N1Y1N1Y1N1Y1N1Y1N1Y1N1Y1N1Y1N9Y8N6Y10
      N8Y8N8Y8N6Y10N8Y8N8Y8N14Y2N53Y1N2Y4N1Y1N1Y3N3Y1N2Y4N1Y3N4Y2N2Y8N8Y10N3Y1N2Y4N1Y337N1Y33N16Y4N1Y843N26Y1862
      N48Y1N1Y3N2Y1N1Y1N1Y1N1Y6N1Y2N1Y10N1Y1N1Y1N1Y1N1Y1N1Y1N1Y1N1Y1N1Y1N1Y1N1Y1N1Y1N1Y1N1Y1N1Y1N1Y1N1Y1N1Y1N1Y1
      N1Y1N1Y1N1Y1N1Y1N1Y1N1Y1N1Y1N1Y1N1Y1N1Y1N1Y1N1Y1N1Y1N1Y1N1Y1N1Y1N1Y1N1Y1N1Y1N1Y1N1Y1N1Y1N1Y1N1Y1N1Y1N1Y1N1
      Y1N1Y1N1Y1N1Y1N1Y1N1Y8N1Y1N1Y4N1Y12N38Y1N1Y5N1Y30995N1Y1N1Y1N1Y1N1Y1N1Y1N1Y1N1Y1N1Y1N1Y1N1Y1N1Y1N1Y1N1Y1N1
      Y1N1Y1N1Y1N1Y1N1Y1N1Y1N1Y1N1Y1N1Y1N1Y19N1Y1N1Y1N1Y1N1Y1N1Y1N1Y1N1Y1N1Y1N1Y1N1Y1N1Y1N1Y1N1Y1N1Y135N1Y1N1Y1N
      1Y1N1Y1N1Y1N1Y1N1Y3N1Y1N1Y1N1Y1N1Y1N1Y1N1Y1N1Y1N1Y1N1Y1N1Y1N1Y1N1Y1N1Y1N1Y1N1Y1N1Y1N1Y1N1Y1N1Y1N1Y1N1Y1N1Y
      1N1Y1N1Y1N1Y1N1Y1N1Y1N1Y1N1Y1N1Y1N1Y10N1Y1N1Y2N1Y1N1Y1N1Y1N1Y1N1Y4N1Y4N1Y1N2Y2N1Y1N1Y1N1Y1N1Y1N1Y1N1Y1N1Y1
      N1Y1N1Y1N1Y11N1Y1N1Y1N1Y1N1Y1N1Y1N1Y1N1Y1N1Y4N1Y1N1Y2N1Y1N1Y1N1Y1N1Y1N1Y1N1Y1N1Y1N1Y26N1Y860N1Y28N80Y20288
      N7Y12N5Y1065N26Y1229N40Y136N36Y155N11Y1N15Y1N7Y1N2Y1795N51Y125N22Y2874N32Y21888N32Y59N25Y31310N34Y988860N" },
   { names := ["Dash"], runs :=
      "45N1Y1372N1Y51N1Y3649N1Y1029N1Y2057N6Y61N1Y39N1Y15N1Y390N1Y3076N1Y2N1Y31N2Y4N1Y28N1Y446N1Y19N1Y111N1Y52624
      N2Y37N1Y10N1Y169N1Y3680N1Y318N1Y1044818N" },
   { names := ["Default_Ignorable_Code_Point", "DI"], runs :=
      "173N1Y673N1Y716N1Y2882N2Y1619N2Y85N5Y2043N5Y26N5Y49N16Y4340N1Y52379N16Y239N1Y160N1Y79N9Y48295N4Y5327N8Y798
      341N4096Y192512N" },
   { names := ["Deprecated", "Dep"], runs :=
      "329N1Y1321N1Y2307N1Y1N1Y2089N2Y2245N6Y697N2Y908502N1Y196606N" },
   { names := ["Diacritic", "Dia"], runs :=
      "94N1Y1N1Y71N1Y6N1Y4N1Y2N2Y503N159Y1N8Y5N6Y17N2Y4N1Y9N2Y253N5Y209N1Y55N45Y1N1Y1N2Y1N2Y1N1Y131N8Y4N2Y134N2Y4
      N2Y3N3Y67N27Y91N11Y58N11Y34N2Y126N8Y41N10Y16N28Y61N1Y16N1Y3N4Y28N1Y74N1Y16N1Y110N1Y16N1Y110N1Y16N1Y47N3Y60
      N1Y16N1Y7N1Y119N1Y110N1Y16N1Y110N1Y16N1Y109N2Y16N1Y124N1Y111N1Y12N6Y1N1Y107N1Y13N5Y75N2Y27N1Y1N1Y1N1Y4N2Y6
      6N3Y1N2Y62N1Y112N1Y1N2Y40N2Y4N5Y25N7Y1N1Y10N2Y705N3Y948N2Y30N1Y148N11Y9N1Y347N3Y292N1Y20N8Y2N1Y48N15Y2N11Y
      3N15Y2N12Y72N1Y15N1Y38N9Y54N2Y58N1Y11N2Y66N2Y64N6Y82N25Y4N1Y6N1Y2N3Y50N63Y48N36Y5N12Y37N11Y445N1Y1N3Y11N3Y
      13N3Y13N3Y13N2Y3312N3Y317N1Y506N6Y105N4Y95N1Y30066N1Y12N2Y1N1Y28N2Y82N2Y14N34Y102N3Y102N1Y6N2Y12N1Y37N1Y15
      1N1Y27N18Y57N4Y36N1Y95N1Y12N1Y36N1Y149N3Y65N4Y51N1Y100N5Y9N3Y128N2Y20272N1Y769N16Y270N1Y1N1Y47N1Y45N2Y67N1
      Y764N1Y1183N6Y1N42Y1N9Y637N3Y4N1Y165N2Y571N6Y38N1Y26N5Y396N1Y2N3Y70N11Y49N4Y192N1Y41N1Y72N2Y120N2Y62N1Y76N
      1Y9N3Y104N2Y178N2Y80N2Y16N1Y24N7Y3N5Y89N3Y1N2Y13N2Y95N1Y3N1Y123N2Y251N2Y126N1Y118N2Y115N1Y269N2Y258N2Y4N1Y
      156N1Y83N1Y18N1Y81N1Y421N1Y258N1Y1N2Y81N1Y65N1Y359N2Y23N1Y5356N15Y11481N1Y2496N5Y59N7Y564N2Y546N17Y80N2Y16
      382N4Y1N7Y1N2Y7937N46Y2N23Y544N3Y3N6Y8N8Y2N7Y30N4Y3714N62Y194N7Y375N1Y61N4Y766N2Y736N7Y109N3Y1N3Y988853N" },
   { names := ["Emoji"], runs :=
      "35N1Y6N1Y5N10Y111N1Y4N1Y8077N1Y12N1Y216N1Y22N1Y90N6Y15N2Y367N2Y12N1Y166N1Y25N11Y4N3Y199N1Y231N2Y10N1Y9N1Y5
      8N4Y1N5Y9N1Y2N1Y2N2Y2N1Y4N1Y2N1Y1N2Y2N1Y3N1Y3N2Y8N3Y5N1Y1N1Y5N12Y11N2Y2N1Y1N2Y1N1Y18N1Y2N2Y18N6Y1N1Y1N2Y3N
      2Y5N1Y2N2Y4N2Y11N2Y5N2Y2N1Y5N2Y1N1Y1N2Y20N2Y5N6Y1N4Y2N1Y4N1Y2N1Y2N6Y1N1Y2N1Y1N1Y1N1Y6N1Y3N1Y6N1Y10N2Y15N1Y
      2N1Y4N1Y1N1Y4N3Y1N1Y11N2Y48N3Y9N1Y14N1Y14N1Y372N2Y463N3Y19N2Y51N1Y4N1Y1242N1Y12N1Y601N1Y1N1Y114026N1Y202N1
      Y160N2Y12N2Y14N1Y2N10Y75N26Y1N2Y23N1Y20N1Y2N9Y21N2Y174N34Y2N112Y2N2Y1N3Y2N83Y2N3Y1N263Y1N63Y11N6Y1N24Y7N2Y
      2N8Y12N1Y2N4Y2N1Y4N2Y13N2Y2N1Y8N2Y9N1Y5N3Y12N3Y8N3Y2N1Y1N1Y4N1Y6N1Y3N1Y6N86Y48N70Y5N8Y2N4Y3N10Y3N1Y1N2Y3N1
      Y2N10Y227N12Y4N1Y283N47Y1N10Y1N185Y112N13Y3N11Y3N57Y1N1Y4N16Y2N12Y4N10Y984327N" },
   { names := ["Emoji_Component", "EComp"], runs :=
      "35N1Y6N1Y5N10Y8147N1Y213N1Y56619N1Y62422N26Y507N5Y1456N4Y788076N96Y196480N" },
   { names := ["Emoji_Modifier", "EMod"], runs :=
      "127995N5Y986112N" },
   { names := ["Emoji_Modifier_Base", "EBase"], runs :=
      "9757N1Y219N1Y16N4Y117879N1Y60N3Y2N1Y2N3Y117N2Y2N11Y21N19Y3N1Y4N3Y1N3Y7N1Y1N1Y24N1Y201N2Y4N1Y21N1Y4N2Y174N3
      Y3N5Y83N1Y16N3Y9N1Y11N1Y575N1Y2N1Y8N8Y6N1Y9N10Y2N3Y56N1Y61N2Y1N2Y1N1Y17N3Y1N13Y229N3Y42N9Y984327N" },
   { names := ["Emoji_Presentation", "EPres"], runs :=
      "8986N2Y205N4Y3N1Y2N1Y521N2Y21N2Y50N12Y43N1Y19N1Y13N1Y8N2Y17N2Y5N2Y8N1Y5N1Y21N1Y7N2Y1N1Y4N1Y2N1Y7N1Y4N2Y28N
      1Y35N1Y1N1Y4N3Y1N1Y61N3Y24N1Y14N1Y859N2Y51N1Y4N1Y115886N1Y202N1Y190N1Y2N10Y75N26Y1N1Y24N1Y20N1Y2N5Y1N3Y21N
      2Y174N33Y12N9Y1N70Y1N22Y12N43Y4N5Y12N17Y3N1Y3N71Y1N1Y1N187Y2N63Y13N4Y1N24Y18N1Y26N2Y13N1Y86N85Y48N70Y6N1Y3
      N3Y2N4Y3N4Y11N2Y7N9Y227N12Y4N1Y283N47Y1N10Y1N185Y112N13Y3N11Y3N57Y1N1Y4N16Y2N12Y4N10Y984327N" },
   { names := ["Extended_Pictographic", "ExtPict"], runs :=
      "169N1Y4N1Y8077N1Y12N1Y216N1Y22N1Y90N6Y15N2Y367N2Y12N1Y166N1Y25N11Y4N3Y199N1Y231N2Y10N1Y9N1Y58N4Y1N5Y9N1Y2N
      1Y2N2Y2N1Y4N1Y2N1Y1N2Y2N1Y3N1Y3N2Y8N3Y5N1Y1N1Y5N12Y11N2Y2N1Y1N2Y1N1Y18N1Y2N2Y18N6Y1N1Y1N2Y3N2Y5N1Y2N2Y4N2Y
      11N2Y5N2Y2N1Y5N2Y1N1Y1N2Y20N2Y5N6Y1N4Y2N1Y4N1Y2N1Y2N6Y1N1Y2N1Y1N1Y1N1Y6N1Y3N1Y6N1Y10N2Y15N1Y2N1Y4N1Y1N1Y4N
      3Y1N1Y11N2Y48N3Y9N1Y14N1Y14N1Y372N2Y463N3Y19N2Y51N1Y4N1Y1242N1Y12N1Y601N1Y1N1Y114026N1Y39N4Y100N12Y15N2Y15
      N1Y14N2Y37N10Y112N2Y12N2Y14N1Y2N10Y19N56Y27N15Y10N1Y20N1Y2N9Y1N4Y9N23Y6N188Y2N112Y2N2Y1N3Y2N83Y2N3Y1N4Y5N2
      54Y1N63Y11N6Y1N24Y7N2Y2N8Y12N1Y2N4Y2N1Y4N2Y13N2Y2N1Y8N2Y9N1Y5N3Y12N3Y8N3Y2N1Y1N1Y4N1Y6N1Y3N1Y6N86Y48N70Y5N
      8Y2N17Y3N1Y1N6Y2N13Y218N38Y12N4Y56N8Y10N6Y40N8Y30N2Y12N4Y2N14Y9N39Y12N47Y1N10Y1N185Y88N8Y14N146Y256N1022Y9
      83042N" },
   { names := ["Extender", "Ext"], runs :=
      "183N1Y536N2Y878N1Y441N1Y630N1Y137N1Y89N1Y752N1Y127N1Y2371N1Y56N1Y611N1Y398N1Y68N1Y5001N1Y43N5Y103N2Y93N3Y2
      8438N1Y1526N1Y962N1Y22N1Y137N1Y108N1Y21N2Y21627N1Y2064N2Y1483N1Y27N1Y4N1Y1223N1Y293N1Y116N2Y498N3Y1231N1Y8
      32N1Y19816N2Y1180N2Y1N1Y14N2Y29000N2Y1201N1Y852N3Y988857N" },
   { names := ["Grapheme_Base", "Gr_Base"], runs :=
      "32N95Y33N13Y1N594Y112N8Y2N6Y4N7Y1N1Y1N20Y1N224Y7N166Y1N38Y2N50Y2N3Y46N1Y1N1Y2N1Y2N1Y9N27Y4N6Y17N10Y11N1Y1N
      46Y21N16Y1N101Y8N1Y6N2Y2N1Y4N32Y2N1Y1N30Y29N89Y11N1Y14N43Y9N7Y3N24Y4N1Y9N1Y3N1Y7N15Y1N25Y5N1Y1N11Y5N32Y16N
      42Y57N55Y1N1Y1N4Y8N4Y1N3Y7N10Y2N29Y1N2Y1N8Y2N2Y2N22Y1N7Y1N1Y3N4Y3N1Y1N2Y6N2Y2N2Y1N1Y13N2Y1N3Y4N24Y5N1Y1N6Y
      4N2Y2N22Y1N7Y1N2Y1N2Y1N2Y4N3Y24N4Y1N1Y7N10Y2N3Y1N1Y12N1Y1N9Y1N3Y1N22Y1N7Y1N2Y1N5Y3N4Y8N1Y1N2Y3N1Y15N2Y4N12
      Y7N1Y8N2Y1N8Y2N2Y2N22Y1N7Y1N2Y1N5Y3N1Y2N1Y6N2Y2N2Y15N2Y1N3Y4N18Y11N1Y1N6Y3N3Y1N4Y3N2Y1N1Y1N2Y3N2Y3N3Y3N12Y
      5N1Y1N2Y3N3Y1N3Y3N1Y21N21Y6N3Y1N8Y1N3Y1N23Y1N16Y3N1Y3N4Y19N3Y1N2Y2N2Y4N10Y7N10Y1N11Y1N3Y1N23Y1N10Y1N5Y3N2Y
      2N1Y1N2Y23N3Y1N2Y4N10Y1N3Y14N11Y1N3Y1N41Y2N1Y1N2Y5N3Y1N3Y1N2Y4N3Y1N10Y4N26Y2N2Y1N18Y3N24Y1N9Y1N1Y2N7Y9N2Y6
      N7Y7N10Y2N3Y12N48Y1N2Y11N8Y8N13Y37N2Y1N1Y1N5Y1N24Y1N1Y1N10Y1N2Y9N1Y2N5Y1N1Y9N10Y2N4Y32N24Y2N27Y1N1Y1N1Y1N1
      4Y1N36Y18N1Y5N1Y2N5Y49N8Y1N6Y1N13Y37N45Y4N1Y6N1Y2N2Y2N25Y2N4Y3N16Y4N13Y1N2Y2N6Y1N15Y1N40Y1N1Y5N1Y2N377Y1N4
      Y2N7Y1N1Y1N4Y2N41Y1N4Y2N33Y1N4Y2N7Y1N1Y1N4Y2N15Y1N57Y1N4Y2N67Y5N29Y3N26Y6N86Y2N6Y2N669Y3N89Y7N18Y13N19Y3N2
      Y9N18Y14N13Y1N3Y15N52Y2N1Y7N8Y1N2Y11N9Y3N10Y6N10Y6N11Y5N10Y6N89Y7N5Y2N34Y1N1Y5N70Y10N31Y4N4Y2N3Y4N2Y1N6Y7N
      1Y3N42Y2N5Y11N44Y4N26Y6N11Y3N57Y2N2Y3N56Y1N1Y9N1Y1N2Y8N6Y13N10Y6N10Y6N14Y86N48Y10N4Y3N8Y1N29Y9N12Y2N32Y4N2
      Y6N56Y1N1Y2N3Y1N1Y13N48Y8N2Y5N15Y3N62Y5N43Y2N11Y11N1Y13N1Y7N4Y1N6Y1N3Y2N1Y5N192Y64N278Y2N6Y2N38Y2N6Y2N8Y1N
      1Y1N1Y1N1Y1N31Y2N53Y1N15Y1N14Y2N6Y1N19Y2N3Y1N9Y1N11Y5N24Y7N49Y16N2Y2N27Y1N13Y3N34Y62N140Y4N666Y22N11Y21N18
      12Y2N377Y3N2Y5N45Y1N1Y5N1Y2N56Y7N2Y15N23Y9N7Y1N7Y1N7Y1N7Y1N7Y1N7Y1N7Y1N7Y33N94Y34N26Y1N89Y12N214Y26N58Y6N1
      6Y1N86Y4N101Y5N43Y1N94Y1N86Y9N48Y1N29293Y3N55Y9N348Y20N47Y4N1Y10N32Y2N80Y2N6Y8N221Y20N17Y1N3Y1N4Y1N25Y2N5Y
      4N10Y6N56Y8N68Y10N12Y24N13Y1N38Y8N25Y11N1Y12N30Y6N48Y1N2Y4N2Y2N2Y1N13Y1N11Y4N7Y1N25Y1N41Y6N2Y2N2Y11N3Y1N8Y
      1N1Y2N10Y2N32Y1N51Y1N1Y3N2Y2N5Y2N1Y1N1Y24N17Y2N8Y11N6Y2N6Y2N6Y9N7Y1N7Y1N60Y4N117Y1N2Y1N4Y3N10Y6N11172Y12N2
      3Y4N49Y8452N366Y2N106Y38N7Y12N5Y5N1Y1N24Y1N5Y1N1Y1N2Y1N2Y1N650Y32N16Y16N10Y22N35Y1N19Y1N4Y4N5Y1N135Y4N157Y
      2N31Y3N6Y2N6Y2N6Y2N3Y3N7Y1N7Y13N2Y2N12Y1N26Y1N19Y1N2Y1N15Y2N14Y34N123Y5N3Y4N45Y3N88Y1N13Y3N1Y47N45Y131N29Y
      3N49Y16N27Y4N36Y9N30Y5N38Y10N30Y1N37Y4N14Y42N158Y2N10Y6N36Y4N36Y4N40Y8N52Y11N12Y1N15Y1N7Y1N2Y1N11Y1N15Y1N7
      Y1N2Y3N52Y12N311Y9N22Y10N8Y24N6Y1N42Y1N9Y69N6Y2N1Y1N44Y1N2Y3N1Y2N23Y1N72Y8N9Y48N19Y1N2Y5N33Y3N27Y5N27Y38N5
      6Y4N20Y2N47Y15N4Y1N3Y1N29Y10N9Y7N9Y7N64Y32N37Y6N12Y9N54Y3N29Y2N27Y5N26Y7N4Y12N7Y80N73Y55N51Y13N51Y7N42Y12N
      10Y6N38Y8N24Y8N2Y208N31Y1N42Y3N1Y2N2Y16N6Y8N9Y39N40Y8N22Y11N9Y22N18Y4N4Y38N28Y20N23Y9N1Y1N54Y15N7Y4N30Y1N2
      Y2N1Y12N49Y4N2Y2N2Y1N4Y14N25Y7N10Y9N36Y5N1Y9N18Y8N35Y1N3Y11N52Y9N1Y1N8Y4N2Y1N16Y1N20Y11N18Y1N28Y3N2Y4N6Y1N
      2Y63N7Y1N1Y1N4Y1N15Y1N11Y6N47Y1N3Y13N10Y8N2Y1N8Y2N2Y2N22Y1N7Y1N2Y1N5Y3N1Y1N1Y1N4Y2N2Y2N2Y3N1Y12N7Y28N10Y1N
      1Y2N1Y1N38Y1N1Y1N2Y15N1Y1N2Y3N1Y1N3Y1N2Y39N56Y8N2Y3N1Y1N21Y1N1Y1N3Y30N48Y1N2Y6N1Y1N2Y1N1Y2N1Y2N4Y8N10Y166N
      47Y1N2Y6N4Y2N1Y2N27Y36N51Y8N2Y1N1Y2N4Y11N10Y6N13Y19N43Y1N1Y1N2Y8N2Y6N10Y6N20Y28N27Y3N1Y1N2Y4N1Y9N23Y185N47
      Y9N1Y2N1Y100N83Y12N8Y2N1Y2N8Y1N2Y1N24Y1N5Y1N2Y6N4Y1N3Y9N10Y70N8Y2N42Y8N4Y1N4Y27N1Y10N40Y6N2Y4N8Y9N1Y6N2Y3N
      46Y13N1Y2N9Y13N73Y7N10Y87N1Y3N1Y1N1Y88N34Y14N10Y6N9Y1N38Y14N1Y1N6Y10N29Y3N32Y25N1Y7N1Y2N1Y75N7Y1N2Y1N38Y21
      N1Y9N10Y6N6Y1N2Y1N37Y4N2Y1N1Y1N1Y7N10Y6N44Y4N10Y246N19Y2N4Y9N15Y1N36Y8N2Y3N23Y86N1Y15N50Y13N923Y102N111Y1N
      5Y11N196Y2636N99Y13N1072Y17N6Y25N3995Y5N583Y6841N30Y12N3Y3N10Y1734N569Y7N31Y1N10Y4N81Y1N10Y6N30Y7N1Y10N48Y
      7N15Y10N10Y1N7Y1N21Y5N19Y432N58Y198N91Y5N25Y2N25Y44N75Y5N56Y11N13Y64N4Y14N5Y9N7382Y41N32Y97N115Y8701N4Y1N7
      Y1N2Y1N291Y15N1Y29N3Y2N1Y14N4Y8N396Y2308N107Y5N13Y3N9Y7N10Y2N1Y2N1Y3936N253Y3N436Y6N23Y15N17Y95N116Y60N246
      Y10N39Y2N60Y5N3Y22N2Y7N30Y4N61Y21N66Y3N1Y122N20Y12N20Y12N87Y9N25Y135N85Y1N71Y1N2Y2N1Y2N2Y2N4Y1N12Y1N1Y1N7Y
      1N65Y1N4Y2N8Y1N7Y1N28Y1N4Y1N5Y1N1Y3N7Y1N340Y2N292Y2N562Y55N4Y50N8Y1N14Y1N7Y1140N31Y6N6Y261N62Y146N45Y10N7Y
      2N10Y4N2Y320N30Y18N44Y4N10Y5N1Y464N28Y4N10Y214N30Y2N11Y4N1Y192N31Y1N3Y1N2Y1N7Y2N5Y9N2Y224N7Y1N4Y1N2Y1N15Y1
      N197Y2N9Y48N68Y7N1Y4N10Y4N2Y785N68Y76N61Y194N4Y1N27Y1N2Y1N1Y2N1Y1N10Y1N4Y1N1Y1N1Y6N1Y4N1Y1N1Y1N1Y1N3Y1N2Y1
      N1Y2N1Y1N1Y1N1Y1N1Y1N1Y1N2Y1N1Y2N4Y1N7Y1N4Y1N4Y1N1Y1N10Y1N17Y5N3Y1N5Y1N17Y52N2Y270N44Y4N100Y12N15Y2N15Y1N1
      5Y1N37Y10N174Y56N29Y13N44Y4N9Y7N2Y14N6Y154N985Y3N17Y3N13Y3N218Y6N12Y4N1Y15N12Y4N56Y8N10Y6N40Y8N30Y2N12Y4N2
      Y14N9Y39N344Y8N14Y2N13Y3N11Y3N57Y1N1Y4N16Y2N12Y4N10Y7N147Y1N103Y1029N42720Y32N4382Y2N5774Y2N7473Y15N622Y24
      66N542Y1506N4939Y5N8490Y904070N" },
   { names := ["Hex_Digit", "Hex"], runs :=
      "48N10Y7N6Y26N6Y65193N10Y7N6Y26N6Y1048761N" },
   { names := ["IDS_Binary_Operator", "IDSB"], runs :=
      "12272N2Y2N10Y497N1Y1101328N" },
   { names := ["IDS_Trinary_Operator", "IDST"], runs :=
      "12274N2Y1101836N" },
   { names := ["ID_Continue", "IDC"], runs :=
      "48N10Y7N26Y4N1Y1N26Y47N1Y10N1Y1N1Y2N1Y5N23Y1N31Y1N458Y4N12Y14N5Y7N1Y1N1Y17N117Y1N2Y2N4Y1N1Y6N5Y1N1Y1N20Y1N
      83Y1N139Y1N5Y2N166Y1N38Y2N1Y6N41Y8N45Y1N1Y1N2Y1N2Y1N1Y8N27Y4N4Y29N11Y5N74Y4N102Y1N8Y2N10Y1N19Y2N1Y16N59Y2N
      101Y14N54Y4N1Y2N1Y2N46Y18N28Y4N11Y5N24Y1N7Y7N75Y1N129Y2N10Y1N19Y1N8Y2N2Y2N22Y1N7Y1N1Y3N4Y2N9Y2N2Y2N4Y8N1Y4
      N2Y1N5Y2N12Y10N1Y1N1Y2N3Y1N6Y4N2Y2N22Y1N7Y1N2Y1N2Y1N2Y2N1Y1N5Y4N2Y2N3Y3N1Y7N4Y1N1Y7N16Y11N3Y1N9Y1N3Y1N22Y1
      N7Y1N2Y1N5Y2N10Y1N3Y1N3Y2N1Y15N4Y2N10Y9N7Y1N3Y1N8Y2N2Y2N22Y1N7Y1N2Y1N5Y2N9Y2N2Y2N3Y7N3Y4N2Y1N5Y2N10Y1N1Y16
      N2Y1N6Y3N3Y1N4Y3N2Y1N1Y1N2Y3N2Y3N3Y3N12Y4N5Y3N3Y1N4Y2N1Y6N1Y14N10Y16N13Y1N3Y1N23Y1N16Y2N9Y1N3Y1N4Y7N2Y1N3Y
      1N2Y2N4Y2N10Y16N4Y1N8Y1N3Y1N23Y1N10Y1N5Y2N9Y1N3Y1N4Y7N2Y5N3Y1N4Y2N10Y1N3Y12N13Y1N3Y1N51Y1N3Y1N5Y5N4Y7N5Y2N
      10Y10N6Y1N3Y1N18Y3N24Y1N9Y1N1Y2N7Y3N1Y4N6Y1N1Y1N8Y6N10Y2N2Y13N58Y5N15Y1N10Y39N2Y1N1Y1N5Y1N24Y1N1Y1N23Y2N5Y
      1N1Y1N7Y1N10Y2N4Y32N1Y23N2Y6N10Y11N1Y1N1Y1N1Y4N10Y1N36Y4N20Y1N18Y1N36Y9N1Y57N74Y6N78Y2N38Y1N1Y5N1Y2N43Y1N3
      33Y1N4Y2N7Y1N1Y1N4Y2N41Y1N4Y2N33Y1N4Y2N7Y1N1Y1N4Y2N15Y1N57Y1N4Y2N67Y2N3Y9N9Y14N16Y16N86Y2N6Y3N620Y2N17Y1N2
      6Y5N75Y3N11Y7N22Y9N22Y11N20Y12N13Y1N3Y1N2Y12N84Y3N1Y4N2Y2N10Y33N3Y1N11Y6N89Y7N43Y5N70Y10N31Y1N12Y4N12Y10N4
      0Y2N5Y11N44Y4N26Y6N11Y37N28Y4N63Y1N29Y2N11Y6N10Y13N1Y8N14Y1N31Y2N12Y20N77Y3N10Y17N9Y12N116Y12N56Y8N10Y3N49
      Y2N11Y5N43Y2N3Y16N3Y1N39Y5N534Y2N6Y2N38Y2N6Y2N8Y1N1Y1N1Y1N1Y1N31Y2N53Y1N7Y1N1Y3N3Y1N7Y3N4Y2N6Y4N13Y5N3Y1N7
      Y15N2Y49N2Y19N1Y28N1Y13N1Y16N13Y51N13Y4N1Y3N12Y17N1Y4N1Y2N10Y1N1Y2N6Y6N1Y1N1Y1N1Y1N16Y2N4Y5N5Y4N1Y17N41Y26
      79N229Y6N9Y12N38Y1N1Y5N1Y2N56Y7N1Y15N24Y9N7Y1N7Y1N7Y1N7Y1N7Y1N7Y1N7Y1N7Y1N32Y517N3Y25N15Y1N5Y2N5Y4N86Y2N7Y
      1N95Y5N43Y1N94Y17N32Y48N16Y512N6592Y64N22157Y67N46Y2N269Y3N28Y20N48Y4N10Y1N115Y37N9Y2N103Y2N82Y20N55Y4N1Y1
      9N52Y12N70Y10N10Y6N24Y3N1Y1N49Y2N36Y12N29Y3N65Y14N11Y6N31Y1N55Y9N14Y2N10Y6N23Y3N73Y24N3Y2N16Y2N5Y10N6Y2N6Y
      2N6Y9N7Y1N7Y1N43Y1N14Y6N123Y1N2Y2N10Y6N11172Y12N23Y4N49Y8452N366Y2N106Y38N7Y12N5Y5N12Y1N13Y1N5Y1N1Y1N2Y1N2
      Y1N108Y33N363Y18N64Y2N54Y40N12Y4N16Y16N16Y3N2Y24N3Y32N5Y1N135Y19N10Y7N26Y4N1Y1N26Y10N90Y3N6Y2N6Y2N6Y2N3Y35
      N12Y1N26Y1N19Y1N2Y1N15Y2N14Y34N123Y69N53Y136N1Y130N29Y3N49Y15N1Y31N32Y13N30Y5N43Y5N30Y2N36Y4N8Y1N5Y42N158Y
      2N10Y6N36Y4N36Y4N40Y8N52Y12N11Y1N15Y1N7Y1N2Y1N11Y1N15Y1N7Y1N2Y3N52Y12N311Y9N22Y10N8Y24N6Y1N42Y1N9Y69N6Y2N1
      Y1N44Y1N2Y3N1Y2N23Y10N23Y9N31Y65N19Y1N2Y10N22Y10N26Y6N26Y38N56Y6N2Y64N4Y1N2Y5N8Y1N3Y1N29Y2N3Y4N1Y32N29Y3N2
      9Y35N8Y1N30Y25N54Y10N22Y10N19Y13N18Y110N73Y55N51Y13N51Y13N40Y8N10Y6N38Y3N5Y1N23Y250N42Y1N2Y3N2Y16N6Y50N35Y
      10N1Y8N33Y31N22Y42N21Y27N23Y9N71Y31N16Y9N60Y7N1Y13N25Y7N10Y6N53Y1N10Y4N4Y8N36Y2N1Y9N69Y4N4Y1N13Y1N1Y35N18Y
      1N37Y6N4Y62N7Y1N1Y1N4Y1N15Y1N10Y7N59Y5N10Y6N4Y1N8Y2N2Y2N22Y1N7Y1N2Y1N5Y1N10Y2N2Y2N3Y2N1Y6N1Y5N7Y2N7Y3N5Y11
      N10Y1N1Y2N1Y1N38Y1N10Y1N1Y2N1Y1N4Y1N8Y13N2Y29N75Y5N10Y4N4Y30N70Y1N1Y8N10Y166N54Y2N9Y23N6Y34N65Y3N1Y11N10Y3
      8N57Y7N10Y6N20Y28N27Y2N15Y4N10Y6N7Y185N59Y101N74Y21N8Y2N1Y2N8Y1N2Y1N30Y1N2Y2N9Y12N10Y70N8Y2N46Y2N8Y1N2Y27N
      63Y8N1Y8N74Y3N1Y18N73Y103N8Y88N33Y15N10Y6N9Y1N45Y1N9Y15N10Y24N30Y2N22Y1N14Y73N7Y1N2Y1N44Y3N1Y1N2Y1N9Y8N10Y
      6N6Y1N2Y1N37Y1N2Y1N6Y7N10Y6N44Y4N10Y246N23Y9N17Y1N41Y3N5Y13N11Y85N1Y79N922Y102N111Y17N196Y2636N97Y15N1072Y
      16N22Y10N3995Y5N583Y6841N58Y1734N569Y7N31Y1N10Y6N79Y1N10Y6N30Y2N5Y11N55Y9N4Y12N10Y9N21Y5N19Y432N45Y3N10Y19
      8N64Y32N25Y2N25Y44N75Y4N57Y7N17Y64N2Y1N2Y11N7Y9N7382Y41N32Y97N115Y8701N4Y1N7Y1N2Y1N291Y15N1Y29N3Y2N1Y14N4Y
      8N396Y2308N107Y5N13Y3N9Y7N10Y3N2Y4177N10Y518N46Y2N23Y542N5Y3N6Y8N8Y2N7Y30N4Y148N3Y443N85Y1N71Y1N2Y2N1Y2N2Y
      2N4Y1N12Y1N1Y1N7Y1N65Y1N4Y2N8Y1N7Y1N28Y1N4Y1N5Y1N1Y3N7Y1N340Y2N25Y1N25Y1N31Y1N25Y1N31Y1N25Y1N31Y1N25Y1N31Y
      1N25Y1N8Y2N50Y512N55Y4N50Y8N1Y14N1Y22N5Y1N15Y1104N31Y6N6Y213N7Y1N17Y2N7Y1N2Y1N5Y5N62Y33N1Y112N45Y3N14Y2N10
      Y4N1Y321N31Y17N58Y470N42Y214N43Y197N31Y1N22Y8N2Y224N7Y1N4Y1N2Y1N15Y1N197Y11N7Y41N76Y4N10Y1190N4Y1N27Y1N2Y1
      N1Y2N1Y1N10Y1N4Y1N1Y1N1Y6N1Y4N1Y1N1Y1N1Y1N3Y1N2Y1N1Y2N1Y1N1Y1N1Y1N1Y1N1Y1N2Y1N1Y2N4Y1N7Y1N4Y1N4Y1N1Y1N10Y1
      N17Y5N3Y1N5Y1N17Y3380N10Y1030N42720Y32N4382Y2N5774Y2N7473Y15N622Y2466N542Y1506N4939Y5N8490Y707718N240Y1961
      12N" },
   { names := ["ID_Start", "IDS"], runs :=
      "65N26Y6N26Y47N1Y10N1Y4N1Y5N23Y1N31Y1N458Y4N12Y14N5Y7N1Y1N1Y129N5Y1N2Y2N4Y1N1Y6N1Y1N3Y1N1Y1N20Y1N83Y1N139Y8
      N166Y1N38Y2N1Y6N41Y71N27Y4N4Y45N43Y35N2Y1N99Y1N1Y15N2Y7N2Y10N3Y2N1Y16N1Y1N30Y29N89Y11N1Y24N33Y9N2Y4N1Y5N22
      Y4N1Y9N1Y3N1Y23N25Y7N11Y5N24Y1N7Y16N42Y58N54Y3N1Y18N1Y7N10Y15N16Y4N8Y2N2Y2N22Y1N7Y1N1Y3N4Y3N1Y16N1Y13N2Y1N
      3Y14N2Y10N1Y8N6Y4N2Y2N22Y1N7Y1N2Y1N2Y1N2Y31N4Y1N1Y19N3Y16N9Y1N3Y1N22Y1N7Y1N2Y1N5Y3N1Y18N1Y15N2Y23N1Y11N8Y2
      N2Y2N22Y1N7Y1N2Y1N5Y3N1Y30N2Y1N3Y15N1Y17N1Y1N6Y3N3Y1N4Y3N2Y1N1Y1N2Y3N2Y3N3Y3N12Y22N1Y52N8Y1N3Y1N23Y1N16Y3N
      1Y26N3Y1N2Y2N2Y30N1Y4N8Y1N3Y1N23Y1N10Y1N5Y3N1Y30N3Y1N2Y15N2Y17N9Y1N3Y1N41Y2N1Y16N1Y5N3Y8N3Y24N6Y5N18Y3N24Y
      1N9Y1N1Y2N7Y58N48Y1N2Y12N7Y58N2Y1N1Y1N5Y1N24Y1N1Y1N10Y1N2Y9N1Y2N5Y1N1Y21N4Y32N1Y63N8Y1N36Y27N5Y115N43Y20N1
      Y16N6Y4N4Y3N1Y3N2Y7N3Y4N13Y12N1Y17N38Y1N1Y5N1Y2N43Y1N333Y1N4Y2N7Y1N1Y1N4Y2N41Y1N4Y2N33Y1N4Y2N7Y1N1Y1N4Y2N1
      5Y1N57Y1N4Y2N67Y37N16Y16N86Y2N6Y3N620Y2N17Y1N26Y5N75Y3N11Y7N18Y13N19Y14N18Y14N13Y1N3Y15N52Y35N1Y4N1Y67N89Y
      7N41Y1N1Y5N70Y10N31Y49N30Y2N5Y11N44Y4N26Y54N23Y9N53Y82N1Y93N47Y17N8Y54N30Y13N2Y10N44Y26N36Y41N3Y10N36Y2N11
      Y5N43Y2N3Y41N4Y1N6Y1N2Y3N1Y5N192Y64N278Y2N6Y2N38Y2N6Y2N8Y1N1Y1N1Y1N1Y1N31Y2N53Y1N7Y1N1Y3N3Y1N7Y3N4Y2N6Y4N1
      3Y5N3Y1N7Y116N1Y13N1Y16N13Y101N1Y4N1Y2N10Y1N1Y2N6Y6N1Y1N1Y1N1Y1N16Y2N4Y5N5Y4N1Y17N41Y2679N229Y6N4Y3N2Y12N3
      8Y1N1Y5N1Y2N56Y7N1Y16N23Y9N7Y1N7Y1N7Y1N7Y1N7Y1N7Y1N7Y1N7Y550N3Y25N9Y7N5Y2N5Y4N86Y4N5Y1N90Y1N4Y5N43Y1N94Y17
      N32Y48N16Y512N6592Y64N22157Y67N46Y2N269Y3N16Y10N2Y20N47Y16N31Y2N80Y39N9Y2N103Y2N82Y20N17Y1N3Y1N4Y1N23Y29N5
      2Y14N50Y62N6Y3N1Y1N2Y11N28Y10N23Y25N29Y7N47Y28N1Y16N5Y1N10Y10N5Y1N41Y23N3Y1N8Y20N23Y3N1Y3N50Y1N1Y3N2Y2N5Y2
      N1Y1N1Y24N3Y2N11Y7N3Y12N6Y2N6Y2N6Y9N7Y1N7Y1N43Y1N14Y6N115Y29N11172Y12N23Y4N49Y8452N366Y2N106Y38N7Y12N5Y5N1
      Y1N10Y1N13Y1N5Y1N1Y1N2Y1N2Y1N108Y33N363Y18N64Y2N54Y40N12Y116N5Y1N135Y36N26Y6N26Y11N89Y3N6Y2N6Y2N6Y2N3Y35N1
      2Y1N26Y1N19Y1N2Y1N15Y2N14Y34N123Y69N53Y267N29Y3N49Y47N32Y13N30Y5N38Y10N30Y2N36Y4N8Y1N5Y42N158Y18N36Y4N36Y4
      N40Y8N52Y12N11Y1N15Y1N7Y1N2Y1N11Y1N15Y1N7Y1N2Y3N52Y12N311Y9N22Y10N8Y24N6Y1N42Y1N9Y69N6Y2N1Y1N44Y1N2Y3N1Y2N
      23Y10N23Y9N31Y65N19Y1N2Y10N22Y10N26Y6N26Y38N56Y6N2Y64N1Y15N4Y1N3Y1N29Y42N29Y3N29Y35N8Y1N28Y27N54Y10N22Y10N
      19Y13N18Y110N73Y55N51Y13N51Y13N36Y38N28Y9N23Y250N42Y6N2Y16N6Y56N29Y10N1Y8N22Y42N18Y46N21Y27N23Y12N53Y57N2Y
      2N1Y13N45Y32N25Y26N36Y29N1Y2N1Y8N35Y3N1Y12N48Y14N4Y21N1Y1N1Y35N18Y1N25Y19N2Y63N7Y1N1Y1N4Y1N15Y1N10Y7N47Y38
      N8Y2N2Y2N22Y1N7Y1N2Y1N5Y3N1Y18N1Y12N5Y30N10Y1N1Y2N1Y1N38Y1N1Y25N1Y1N1Y44N53Y18N4Y20N3Y30N48Y20N2Y1N1Y184N4
      7Y41N4Y36N48Y20N1Y59N43Y13N1Y71N27Y37N7Y185N44Y116N64Y31N8Y2N1Y2N8Y1N2Y1N24Y15N1Y1N1Y94N8Y2N39Y16N1Y1N1Y28
      N1Y10N40Y7N1Y21N1Y11N46Y19N1Y18N73Y199N33Y31N9Y1N37Y17N1Y49N30Y112N7Y1N2Y1N38Y21N1Y25N6Y1N2Y1N32Y14N1Y23N4
      4Y260N19Y15N1Y1N13Y1N34Y124N1Y79N922Y102N111Y17N196Y2636N97Y15N1072Y17N6Y25N3995Y5N583Y6841N30Y1762N569Y7N
      31Y17N79Y17N30Y18N48Y16N4Y31N21Y5N19Y432N45Y211N64Y32N25Y2N25Y44N75Y5N1Y66N13Y64N2Y1N1Y14N5Y9N7382Y41N32Y9
      7N115Y8701N4Y1N7Y1N2Y1N291Y15N1Y29N3Y2N1Y14N4Y8N396Y2308N107Y5N13Y3N9Y7N10Y5990N85Y1N71Y1N2Y2N1Y2N2Y2N4Y1N
      12Y1N1Y1N7Y1N65Y1N4Y2N8Y1N7Y1N28Y1N4Y1N5Y1N1Y3N7Y1N340Y2N25Y1N25Y1N31Y1N25Y1N31Y1N25Y1N31Y1N25Y1N31Y1N25Y1
      N8Y1844N31Y6N6Y261N62Y146N45Y10N7Y16N1Y321N30Y18N44Y484N28Y228N30Y2N1Y207N31Y1N3Y1N2Y1N7Y2N5Y9N2Y224N7Y1N4
      Y1N2Y1N15Y1N197Y59N68Y7N1Y1204N4Y1N27Y1N2Y1N1Y2N1Y1N10Y1N4Y1N1Y1N1Y6N1Y4N1Y1N1Y1N1Y1N3Y1N2Y1N1Y2N1Y1N1Y1N1
      Y1N1Y1N1Y1N2Y1N1Y2N4Y1N7Y1N4Y1N4Y1N1Y1N10Y1N17Y5N3Y1N5Y1N17Y4420N42720Y32N4382Y2N5774Y2N7473Y15N622Y2466N5
      42Y1506N4939Y5N8490Y904070N" },
   { names := ["Ideographic", "Ideo"], runs :=
      "12294N2Y25N9Y14N3Y965N6592Y64N20992Y22784N366Y2N106Y29962N1Y13N5Y9N7382Y41N32Y97N115Y9085N396Y19716N42720Y
      32N4382Y2N5774Y2N7473Y15N622Y2466N542Y1506N4939Y5N8490Y904070N" },
   { names := ["Join_Control", "Join_C"], runs :=
      "8204N2Y1105906N" },
   { names := ["Logical_Order_Exception", "LOE"], runs :=
      "3648N5Y123N5Y2800N3Y2N1Y37114N2Y2N1Y1N2Y1070403N" },
   { names := ["Lowercase", "Lower"], runs :=
      "97N26Y47N1Y10N1Y4N1Y36N24Y1N8Y1N1Y1N1Y1N1Y1N1Y1N1Y1N1Y1N1Y1N1Y1N1Y1N1Y1N1Y1N1Y1N1Y1N1Y1N1Y1N1Y1N1Y1N1Y1N1Y
      1N1Y1N1Y1N1Y1N1Y1N1Y1N1Y1N1Y1N1Y1N2Y1N1Y1N1Y1N1Y1N1Y1N1Y1N1Y1N1Y1N2Y1N1Y1N1Y1N1Y1N1Y1N1Y1N1Y1N1Y1N1Y1N1Y1N
      1Y1N1Y1N1Y1N1Y1N1Y1N1Y1N1Y1N1Y1N1Y1N1Y1N1Y1N1Y1N1Y1N1Y2N1Y1N1Y1N3Y2N1Y1N1Y2N1Y3N2Y4N1Y2N1Y3N3Y2N1Y2N1Y1N1Y
      1N1Y2N1Y1N2Y1N1Y2N1Y3N1Y1N1Y2N2Y2N3Y6N1Y2N1Y2N1Y1N1Y1N1Y1N1Y1N1Y1N1Y1N1Y1N1Y1N2Y1N1Y1N1Y1N1Y1N1Y1N1Y1N1Y1N
      1Y1N1Y1N2Y2N1Y1N1Y3N1Y1N1Y1N1Y1N1Y1N1Y1N1Y1N1Y1N1Y1N1Y1N1Y1N1Y1N1Y1N1Y1N1Y1N1Y1N1Y1N1Y1N1Y1N1Y1N1Y1N1Y1N1Y
      1N1Y1N1Y1N1Y1N1Y1N1Y1N1Y1N1Y1N7Y2N1Y2N2Y1N1Y4N1Y1N1Y1N1Y1N1Y1N69Y2N35Y7N2Y30N5Y96N1Y43N1Y1N1Y3N1Y2N4Y18N1Y
      27N35Y1N2Y3N3Y1N1Y1N1Y1N1Y1N1Y1N1Y1N1Y1N1Y1N1Y1N1Y1N1Y1N1Y1N5Y1N1Y2N1Y2N2Y51N48Y1N1Y1N1Y1N1Y1N1Y1N1Y1N1Y1N
      1Y1N1Y1N1Y1N1Y1N1Y1N1Y1N1Y1N1Y1N1Y1N1Y1N1Y9N1Y1N1Y1N1Y1N1Y1N1Y1N1Y1N1Y1N1Y1N1Y1N1Y1N1Y1N1Y1N1Y1N1Y1N1Y1N1Y
      1N1Y1N1Y1N1Y1N1Y1N1Y1N1Y1N1Y1N1Y1N1Y1N1Y1N1Y2N1Y1N1Y1N1Y1N1Y1N1Y1N1Y1N2Y1N1Y1N1Y1N1Y1N1Y1N1Y1N1Y1N1Y1N1Y1N
      1Y1N1Y1N1Y1N1Y1N1Y1N1Y1N1Y1N1Y1N1Y1N1Y1N1Y1N1Y1N1Y1N1Y1N1Y1N1Y1N1Y1N1Y1N1Y1N1Y1N1Y1N1Y1N1Y1N1Y1N1Y1N1Y1N1Y
      1N1Y1N1Y1N1Y1N1Y1N1Y1N1Y1N1Y1N1Y1N1Y1N1Y1N1Y1N1Y1N1Y48N41Y2887N43Y1N4Y760N6Y2178N9Y1N1Y117N192Y65N1Y1N1Y1N
      1Y1N1Y1N1Y1N1Y1N1Y1N1Y1N1Y1N1Y1N1Y1N1Y1N1Y1N1Y1N1Y1N1Y1N1Y1N1Y1N1Y1N1Y1N1Y1N1Y1N1Y1N1Y1N1Y1N1Y1N1Y1N1Y1N1Y
      1N1Y1N1Y1N1Y1N1Y1N1Y1N1Y1N1Y1N1Y1N1Y1N1Y1N1Y1N1Y1N1Y1N1Y1N1Y1N1Y1N1Y1N1Y1N1Y1N1Y1N1Y1N1Y1N1Y1N1Y1N1Y1N1Y1N
      1Y1N1Y1N1Y1N1Y1N1Y1N1Y1N1Y1N1Y1N1Y1N1Y1N1Y1N1Y1N1Y1N1Y1N1Y1N1Y1N1Y1N1Y1N1Y1N9Y1N1Y1N1Y1N1Y1N1Y1N1Y1N1Y1N1Y
      1N1Y1N1Y1N1Y1N1Y1N1Y1N1Y1N1Y1N1Y1N1Y1N1Y1N1Y1N1Y1N1Y1N1Y1N1Y1N1Y1N1Y1N1Y1N1Y1N1Y1N1Y1N1Y1N1Y1N1Y1N1Y1N1Y1N
      1Y1N1Y1N1Y1N1Y1N1Y1N1Y1N1Y1N1Y1N1Y1N1Y1N1Y1N1Y1N1Y1N1Y1N1Y1N9Y8N6Y10N8Y8N8Y8N6Y10N8Y8N8Y8N14Y2N8Y8N8Y8N8Y8
      N5Y1N2Y6N1Y3N3Y1N2Y8N4Y2N2Y8N8Y10N3Y1N2Y121N1Y13N1Y16N13Y109N1Y3N2Y3N1Y27N1Y4N1Y4N1Y2N2Y8N4Y4N1Y33N16Y4N1Y
      843N26Y1862N48Y1N1Y3N2Y1N1Y1N1Y1N1Y4N1Y1N2Y1N8Y3N1Y1N1Y1N1Y1N1Y1N1Y1N1Y1N1Y1N1Y1N1Y1N1Y1N1Y1N1Y1N1Y1N1Y1N1
      Y1N1Y1N1Y1N1Y1N1Y1N1Y1N1Y1N1Y1N1Y1N1Y1N1Y1N1Y1N1Y1N1Y1N1Y1N1Y1N1Y1N1Y1N1Y1N1Y1N1Y1N1Y1N1Y1N1Y1N1Y1N1Y1N1Y1
      N1Y1N1Y1N1Y1N1Y1N1Y1N1Y1N1Y1N1Y1N2Y7N1Y1N1Y4N1Y12N38Y1N1Y5N1Y30995N1Y1N1Y1N1Y1N1Y1N1Y1N1Y1N1Y1N1Y1N1Y1N1Y1
      N1Y1N1Y1N1Y1N1Y1N1Y1N1Y1N1Y1N1Y1N1Y1N1Y1N1Y1N1Y1N1Y19N1Y1N1Y1N1Y1N1Y1N1Y1N1Y1N1Y1N1Y1N1Y1N1Y1N1Y1N1Y1N1Y1N
      3Y133N1Y1N1Y1N1Y1N1Y1N1Y1N1Y1N3Y1N1Y1N1Y1N1Y1N1Y1N1Y1N1Y1N1Y1N1Y1N1Y1N1Y1N1Y1N1Y1N1Y1N1Y1N1Y1N1Y1N1Y1N1Y1N
      1Y1N1Y1N1Y1N1Y1N1Y1N1Y1N1Y1N1Y1N1Y1N1Y1N1Y1N1Y1N10Y1N1Y1N1Y2N1Y1N1Y1N1Y1N1Y1N1Y4N1Y1N1Y2N1Y1N3Y1N1Y1N1Y1N1
      Y1N1Y1N1Y1N1Y1N1Y1N1Y1N1Y1N1Y5N1Y5N1Y1N1Y1N1Y1N1Y1N1Y1N1Y1N1Y1N1Y4N1Y1N1Y2N1Y1N1Y1N1Y1N1Y1N1Y1N1Y1N1Y1N1Y2
      1N4Y1N1Y1N3Y821N43Y1N14Y6N80Y20288N7Y12N5Y1065N26Y1229N40Y136N36Y155N11Y1N15Y1N7Y1N2Y451N1Y2N3Y1N42Y1N9Y12
      85N51Y125N22Y2874N32Y21888N32Y59N25Y25926N26Y26N7Y1N18Y26N26Y26N4Y1N1Y1N7Y1N11Y26N26Y26N26Y26N26Y26N26Y26N
      26Y26N26Y26N26Y26N26Y26N28Y28N25Y1N6Y26N25Y1N6Y26N25Y1N6Y26N25Y1N6Y26N25Y1N6Y1N1Y1844N10Y1N20Y6N6Y261N62Y2
      228N34Y988860N" },
   { names := ["Math"], runs :=
      "43N1Y16N3Y31N1Y29N1Y1N1Y45N1Y4N1Y37N1Y31N1Y728N3Y2N1Y26N2Y2N3Y527N3Y6669N1Y27N3Y11N1Y3N1Y13N1Y14N4Y21N5Y11
      N5Y65N13Y4N1Y3N2Y4N5Y18N1Y4N1Y2N10Y1N1Y2N6Y6N1Y3N2Y2N2Y1N3Y1N6Y3N14Y1N1Y68N24Y1N6Y1N2Y4N2Y4N32Y1N1Y6N2Y14N
      268Y8N4Y20N2Y90N1Y30N27Y1N1Y24N1Y11N7Y445N2Y12N10Y4N6Y4N2Y2N2Y3N5Y14N1Y1N1Y2N6Y11N8Y5N2Y57N1Y1N1Y29N4Y9N3Y
      336N64Y256N512Y48N21Y2N6Y53212N1Y823N6Y1N1Y162N1Y16N3Y29N1Y1N1Y29N1Y1N1Y131N1Y6N4Y3489N2Y49504N1Y1295N85Y1
      N71Y1N2Y2N1Y2N2Y2N4Y1N12Y1N1Y1N7Y1N65Y1N4Y2N8Y1N7Y1N28Y1N4Y1N5Y1N1Y3N7Y1N340Y2N292Y2N50Y5632N4Y1N27Y1N2Y1N
      1Y2N1Y1N10Y1N4Y1N1Y1N1Y6N1Y4N1Y1N1Y1N1Y1N3Y1N2Y1N1Y2N1Y1N1Y1N1Y1N1Y1N1Y1N2Y1N1Y2N4Y1N7Y1N4Y1N4Y1N1Y1N10Y1N
      17Y5N3Y1N5Y1N17Y52N2Y2526N9Y984871N" },
   { names := ["Noncharacter_Code_Point", "NChar"], runs :=
      "64976N32Y526N2Y65534N2Y65534N2Y65534N2Y65534N2Y65534N2Y65534N2Y65534N2Y65534N2Y65534N2Y65534N2Y65534N2Y655
      34N2Y65534N2Y65534N2Y65534N2Y65534N2Y" },
   { names := ["Pattern_Syntax", "Pat_Syn"], runs :=
      "33N15Y10N7Y26N4Y1N1Y26N4Y34N7Y1N1Y1N2Y1N1Y1N2Y4N1Y4N1Y3N1Y23N1Y31N1Y7960N24Y8N15Y2N19Y1N10Y305N720Y160N630
      Y30N1132Y512N128Y385N3Y4N25Y15N1Y52493N2Y261N2Y1049017N" },
   { names := ["Pattern_White_Space", "Pat_WS"], runs :=
      "9N5Y18N1Y100N1Y8072N2Y24N2Y1105878N" },
   { names := ["Quotation_Mark", "QMark"], runs :=
      "34N1Y4N1Y131N1Y15N1Y8028N8Y25N2Y3591N1Y457N4Y13N3Y52769N4Y189N1Y4N1Y90N2Y1048732N" },
   { names := ["Radical"], runs :=
      "11904N26Y1N89Y12N214Y1101866N" },
   { names := ["Regional_Indicator", "RI"], runs :=
      "127462N26Y986624N" },
   { names := ["Sentence_Terminal", "STerm"], runs :=
      "33N1Y12N1Y16N1Y1353N1Y147N3Y180N1Y43N3Y246N1Y61N1Y1N1Y3N2Y293N2Y1764N2Y790N1Y4N2Y773N1Y198N2Y157N2Y45N1Y5N
      1Y314N2Y354N4Y162N2Y10N2Y2N2Y29N3Y187N2Y65N2Y932N1Y23N2Y9N3Y3247N3Y306N1Y13N1Y22N2Y429N1Y29948N1Y270N2Y227
      N1Y3N1Y382N2Y86N2Y95N1Y152N2Y147N3Y144N2Y249N1Y21030N1Y2N2Y59N1Y3N2Y169N1Y12N1Y16N1Y65N1Y2804N2Y1277N5Y44N
      4Y189N2Y117N4Y127N3Y129N2Y6N1Y16N2Y88N2Y1N2Y108N1Y298N2Y117N2Y373N2Y5N15Y105N2Y249N3Y517N1Y1N1Y251N2Y87N2Y
      420N2Y692N2Y74N2Y19241N2Y133N1Y65N2Y11N1Y553N2Y296N1Y19974N1Y7656N1Y992631N" },
   { names := ["Soft_Dotted", "SD"], runs :=
      "105N2Y196N1Y281N1Y30N1Y52N1Y20N1Y320N1Y98N1Y1N1Y6409N1Y51N1Y13N1Y3N1Y132N1Y157N1Y421N1Y214N2Y2866N1Y108453
      N2Y50N2Y50N2Y50N2Y50N2Y50N2Y50N2Y50N2Y50N2Y50N2Y50N2Y50N2Y50N2Y2182N1Y305N2Y26N1Y991127N" },
   { names := ["Terminal_Punctuation", "Term"], runs :=
      "33N1Y10N1Y1N1Y11N2Y3N1Y830N1Y8N1Y513N1Y57N1Y72N1Y14N1Y1N3Y180N1Y43N11Y1N1Y235N2Y54N6Y1N8Y31N1Y261N2Y1268N2
      Y172N1Y4N6Y311N2Y789N8Y773N1Y124N3Y71N2Y157N3Y3N1Y39N4Y2N2Y314N2Y354N4Y162N2Y10N2Y1N3Y29N3Y187N5Y62N2Y932N
      1Y23N2Y9N3Y3247N3Y306N1Y13N1Y4N1Y10N1Y1N2Y3N2Y428N2Y29947N2Y269N3Y227N5Y382N2Y86N2Y95N1Y151N3Y147N3Y127N1Y
      16N2Y249N1Y21030N1Y2N2Y57N3Y1N4Y169N1Y10N1Y1N1Y11N2Y3N1Y65N1Y2N1Y1082N1Y48N1Y1158N1Y199N1Y310N2Y152N6Y68N6
      Y89N4Y952N5Y44N4Y189N7Y112N4Y127N3Y129N2Y6N1Y16N2Y88N5Y108N1Y298N2Y117N3Y12N2Y358N4Y3N15Y105N2Y249N3Y517N1
      Y1N1Y251N2Y87N2Y4N2Y414N3Y45N1Y645N2Y74N2Y1323N5Y17913N2Y133N1Y65N3Y10N1Y553N2Y295N2Y19974N1Y7655N4Y992629
      N" },
   { names := ["Unified_Ideograph", "UIdeo"], runs :=
      "13312N6592Y64N20992Y23054N2Y1N1Y1N2Y10N1Y1N1Y1N2Y2N3Y67030N42720Y32N4382Y2N5774Y2N7473Y15N622Y4514N4939Y5N
      8490Y904070N" },
   { names := ["Uppercase", "Upper"], runs :=
      "65N26Y101N23Y1N7Y33N1Y1N1Y1N1Y1N1Y1N1Y1N1Y1N1Y1N1Y1N1Y1N1Y1N1Y1N1Y1N1Y1N1Y1N1Y1N1Y1N1Y1N1Y1N1Y1N1Y1N1Y1N1Y
      1N1Y1N1Y1N1Y1N1Y1N1Y1N1Y2N1Y1N1Y1N1Y1N1Y1N1Y1N1Y1N1Y1N1Y2N1Y1N1Y1N1Y1N1Y1N1Y1N1Y1N1Y1N1Y1N1Y1N1Y1N1Y1N1Y1N
      1Y1N1Y1N1Y1N1Y1N1Y1N1Y1N1Y1N1Y1N1Y1N1Y1N1Y1N2Y1N1Y1N1Y3N2Y1N1Y1N2Y1N3Y2N4Y1N2Y1N3Y3N2Y1N2Y1N1Y1N1Y1N2Y1N1Y
      2N1Y1N2Y1N3Y1N1Y1N2Y3N1Y7N1Y2N1Y2N1Y2N1Y1N1Y1N1Y1N1Y1N1Y1N1Y1N1Y1N1Y2N1Y1N1Y1N1Y1N1Y1N1Y1N1Y1N1Y1N1Y1N1Y2N
      1Y2N1Y1N3Y1N1Y1N1Y1N1Y1N1Y1N1Y1N1Y1N1Y1N1Y1N1Y1N1Y1N1Y1N1Y1N1Y1N1Y1N1Y1N1Y1N1Y1N1Y1N1Y1N1Y1N1Y1N1Y1N1Y1N1Y
      1N1Y1N1Y1N1Y1N1Y1N1Y7N2Y1N2Y2N1Y1N4Y1N1Y1N1Y1N1Y1N1Y289N1Y1N1Y3N1Y8N1Y6N1Y1N3Y1N1Y1N2Y1N17Y1N9Y35N1Y2N3Y3N
      1Y1N1Y1N1Y1N1Y1N1Y1N1Y1N1Y1N1Y1N1Y1N1Y1N1Y1N1Y5N1Y2N1Y1N2Y2N51Y48N1Y1N1Y1N1Y1N1Y1N1Y1N1Y1N1Y1N1Y1N1Y1N1Y1N
      1Y1N1Y1N1Y1N1Y1N1Y1N1Y1N1Y9N1Y1N1Y1N1Y1N1Y1N1Y1N1Y1N1Y1N1Y1N1Y1N1Y1N1Y1N1Y1N1Y1N1Y1N1Y1N1Y1N1Y1N1Y1N1Y1N1Y
      1N1Y1N1Y1N1Y1N1Y1N1Y1N1Y1N1Y1N2Y1N1Y1N1Y1N1Y1N1Y1N1Y1N1Y2N1Y1N1Y1N1Y1N1Y1N1Y1N1Y1N1Y1N1Y1N1Y1N1Y1N1Y1N1Y1N
      1Y1N1Y1N1Y1N1Y1N1Y1N1Y1N1Y1N1Y1N1Y1N1Y1N1Y1N1Y1N1Y1N1Y1N1Y1N1Y1N1Y1N1Y1N1Y1N1Y1N1Y1N1Y1N1Y1N1Y1N1Y1N1Y1N1Y
      1N1Y1N1Y1N1Y1N1Y1N1Y1N1Y1N1Y1N1Y1N1Y2N38Y2889N38Y1N1Y5N1Y722N86Y2195N1Y6N43Y2N3Y320N1Y1N1Y1N1Y1N1Y1N1Y1N1Y
      1N1Y1N1Y1N1Y1N1Y1N1Y1N1Y1N1Y1N1Y1N1Y1N1Y1N1Y1N1Y1N1Y1N1Y1N1Y1N1Y1N1Y1N1Y1N1Y1N1Y1N1Y1N1Y1N1Y1N1Y1N1Y1N1Y1N
      1Y1N1Y1N1Y1N1Y1N1Y1N1Y1N1Y1N1Y1N1Y1N1Y1N1Y1N1Y1N1Y1N1Y1N1Y1N1Y1N1Y1N1Y1N1Y1N1Y1N1Y1N1Y1N1Y1N1Y1N1Y1N1Y1N1Y
      1N1Y1N1Y1N1Y1N1Y1N1Y1N1Y1N1Y1N1Y1N1Y1N1Y1N1Y1N1Y1N1Y1N1Y1N1Y1N1Y9N1Y1N1Y1N1Y1N1Y1N1Y1N1Y1N1Y1N1Y1N1Y1N1Y1N
      1Y1N1Y1N1Y1N1Y1N1Y1N1Y1N1Y1N1Y1N1Y1N1Y1N1Y1N1Y1N1Y1N1Y1N1Y1N1Y1N1Y1N1Y1N1Y1N1Y1N1Y1N1Y1N1Y1N1Y1N1Y1N1Y1N1Y
      1N1Y1N1Y1N1Y1N1Y1N1Y1N1Y1N1Y1N1Y1N1Y1N1Y1N1Y1N1Y9N8Y8N6Y10N8Y8N8Y8N6Y11N1Y1N1Y1N1Y1N1Y8N8Y72N4Y12N4Y12N4Y1
      2N5Y11N4Y262N1Y4N1Y3N3Y2N3Y2N1Y3N5Y6N1Y1N1Y1N1Y1N4Y2N4Y10N2Y5N1Y26N16Y19N1Y818N26Y1840N48Y48N1Y1N3Y2N1Y1N1
      Y1N1Y1N4Y1N1Y2N1Y8N3Y1N1Y1N1Y1N1Y1N1Y1N1Y1N1Y1N1Y1N1Y1N1Y1N1Y1N1Y1N1Y1N1Y1N1Y1N1Y1N1Y1N1Y1N1Y1N1Y1N1Y1N1Y1
      N1Y1N1Y1N1Y1N1Y1N1Y1N1Y1N1Y1N1Y1N1Y1N1Y1N1Y1N1Y1N1Y1N1Y1N1Y1N1Y1N1Y1N1Y1N1Y1N1Y1N1Y1N1Y1N1Y1N1Y1N1Y1N1Y1N1
      Y1N1Y8N1Y1N1Y4N1Y31053N1Y1N1Y1N1Y1N1Y1N1Y1N1Y1N1Y1N1Y1N1Y1N1Y1N1Y1N1Y1N1Y1N1Y1N1Y1N1Y1N1Y1N1Y1N1Y1N1Y1N1Y1
      N1Y1N1Y19N1Y1N1Y1N1Y1N1Y1N1Y1N1Y1N1Y1N1Y1N1Y1N1Y1N1Y1N1Y1N1Y1N1Y135N1Y1N1Y1N1Y1N1Y1N1Y1N1Y1N1Y3N1Y1N1Y1N1Y
      1N1Y1N1Y1N1Y1N1Y1N1Y1N1Y1N1Y1N1Y1N1Y1N1Y1N1Y1N1Y1N1Y1N1Y1N1Y1N1Y1N1Y1N1Y1N1Y1N1Y1N1Y1N1Y1N1Y1N1Y1N1Y1N1Y1N
      1Y1N1Y10N1Y1N1Y1N2Y1N1Y1N1Y1N1Y1N1Y4N1Y1N1Y2N1Y1N1Y3N1Y1N1Y1N1Y1N1Y1N1Y1N1Y1N1Y1N1Y1N1Y1N1Y1N5Y1N5Y1N1Y1N1
      Y1N1Y1N1Y1N1Y1N1Y1N1Y1N4Y1N1Y1N2Y1N1Y1N1Y1N1Y1N1Y1N1Y1N1Y1N1Y1N1Y24N1Y22315N26Y1221N40Y136N36Y156N11Y1N15Y
      1N7Y1N2Y1770N51Y157N22Y2874N32Y21888N32Y64N25Y25927N26Y26N26Y26N26Y26N1Y1N2Y2N1Y2N2Y2N4Y1N8Y26N26Y26N2Y1N4
      Y2N8Y1N7Y27N2Y1N4Y1N5Y1N1Y3N7Y27N26Y26N26Y26N26Y26N26Y26N26Y26N26Y30N25Y33N25Y33N25Y33N25Y33N25Y33N1Y4405N
      34Y2062N26Y6N26Y6N26Y986742N" },
   { names := ["Variation_Selector", "VS"], runs :=
      "6155N3Y1N1Y58864N16Y852720N240Y196112N" },
   { names := ["White_Space", "WSpace", "space"], runs :=
      "9N5Y18N1Y100N1Y26N1Y5599N1Y2431N11Y29N2Y5N1Y47N1Y4000N1Y1101823N" },
   { names := ["XID_Continue", "XIDC"], runs :=
      "48N10Y7N26Y4N1Y1N26Y47N1Y10N1Y1N1Y2N1Y5N23Y1N31Y1N458Y4N12Y14N5Y7N1Y1N1Y17N117Y1N2Y3N3Y1N1Y6N5Y1N1Y1N20Y1N
      83Y1N139Y1N5Y2N166Y1N38Y2N1Y6N41Y8N45Y1N1Y1N2Y1N2Y1N1Y8N27Y4N4Y29N11Y5N74Y4N102Y1N8Y2N10Y1N19Y2N1Y16N59Y2N
      101Y14N54Y4N1Y2N1Y2N46Y18N28Y4N11Y5N24Y1N7Y7N75Y1N129Y2N10Y1N19Y1N8Y2N2Y2N22Y1N7Y1N1Y3N4Y2N9Y2N2Y2N4Y8N1Y4
      N2Y1N5Y2N12Y10N1Y1N1Y2N3Y1N6Y4N2Y2N22Y1N7Y1N2Y1N2Y1N2Y2N1Y1N5Y4N2Y2N3Y3N1Y7N4Y1N1Y7N16Y11N3Y1N9Y1N3Y1N22Y1
      N7Y1N2Y1N5Y2N10Y1N3Y1N3Y2N1Y15N4Y2N10Y9N7Y1N3Y1N8Y2N2Y2N22Y1N7Y1N2Y1N5Y2N9Y2N2Y2N3Y7N3Y4N2Y1N5Y2N10Y1N1Y16
      N2Y1N6Y3N3Y1N4Y3N2Y1N1Y1N2Y3N2Y3N3Y3N12Y4N5Y3N3Y1N4Y2N1Y6N1Y14N10Y16N13Y1N3Y1N23Y1N16Y2N9Y1N3Y1N4Y7N2Y1N3Y
      1N2Y2N4Y2N10Y16N4Y1N8Y1N3Y1N23Y1N10Y1N5Y2N9Y1N3Y1N4Y7N2Y5N3Y1N4Y2N10Y1N3Y12N13Y1N3Y1N51Y1N3Y1N5Y5N4Y7N5Y2N
      10Y10N6Y1N3Y1N18Y3N24Y1N9Y1N1Y2N7Y3N1Y4N6Y1N1Y1N8Y6N10Y2N2Y13N58Y5N15Y1N10Y39N2Y1N1Y1N5Y1N24Y1N1Y1N23Y2N5Y
      1N1Y1N7Y1N10Y2N4Y32N1Y23N2Y6N10Y11N1Y1N1Y1N1Y4N10Y1N36Y4N20Y1N18Y1N36Y9N1Y57N74Y6N78Y2N38Y1N1Y5N1Y2N43Y1N3
      33Y1N4Y2N7Y1N1Y1N4Y2N41Y1N4Y2N33Y1N4Y2N7Y1N1Y1N4Y2N15Y1N57Y1N4Y2N67Y2N3Y9N9Y14N16Y16N86Y2N6Y3N620Y2N17Y1N2
      6Y5N75Y3N11Y7N22Y9N22Y11N20Y12N13Y1N3Y1N2Y12N84Y3N1Y4N2Y2N10Y33N3Y1N11Y6N89Y7N43Y5N70Y10N31Y1N12Y4N12Y10N4
      0Y2N5Y11N44Y4N26Y6N11Y37N28Y4N63Y1N29Y2N11Y6N10Y13N1Y8N14Y1N31Y2N12Y20N77Y3N10Y17N9Y12N116Y12N56Y8N10Y3N49
      Y2N11Y5N43Y2N3Y16N3Y1N39Y5N534Y2N6Y2N38Y2N6Y2N8Y1N1Y1N1Y1N1Y1N31Y2N53Y1N7Y1N1Y3N3Y1N7Y3N4Y2N6Y4N13Y5N3Y1N7
      Y15N2Y49N2Y19N1Y28N1Y13N1Y16N13Y51N13Y4N1Y3N12Y17N1Y4N1Y2N10Y1N1Y2N6Y6N1Y1N1Y1N1Y1N16Y2N4Y5N5Y4N1Y17N41Y26
      79N229Y6N9Y12N38Y1N1Y5N1Y2N56Y7N1Y15N24Y9N7Y1N7Y1N7Y1N7Y1N7Y1N7Y1N7Y1N7Y1N32Y517N3Y25N15Y1N5Y2N5Y4N86Y2N2Y
      2N3Y1N95Y5N43Y1N94Y17N32Y48N16Y512N6592Y64N22157Y67N46Y2N269Y3N28Y20N48Y4N10Y1N115Y37N9Y2N103Y2N82Y20N55Y4
      N1Y19N52Y12N70Y10N10Y6N24Y3N1Y1N49Y2N36Y12N29Y3N65Y14N11Y6N31Y1N55Y9N14Y2N10Y6N23Y3N73Y24N3Y2N16Y2N5Y10N6Y
      2N6Y2N6Y9N7Y1N7Y1N43Y1N14Y6N123Y1N2Y2N10Y6N11172Y12N23Y4N49Y8452N366Y2N106Y38N7Y12N5Y5N12Y1N13Y1N5Y1N1Y1N2
      Y1N2Y1N108Y33N139Y6N218Y18N64Y2N54Y40N10Y6N16Y16N16Y3N2Y24N3Y33N1Y1N1Y3N1Y1N1Y1N1Y1N1Y1N126Y19N10Y7N26Y4N1
      Y1N26Y10N90Y3N6Y2N6Y2N6Y2N3Y35N12Y1N26Y1N19Y1N2Y1N15Y2N14Y34N123Y69N53Y136N1Y130N29Y3N49Y15N1Y31N32Y13N30Y
      5N43Y5N30Y2N36Y4N8Y1N5Y42N158Y2N10Y6N36Y4N36Y4N40Y8N52Y12N11Y1N15Y1N7Y1N2Y1N11Y1N15Y1N7Y1N2Y3N52Y12N311Y9N
      22Y10N8Y24N6Y1N42Y1N9Y69N6Y2N1Y1N44Y1N2Y3N1Y2N23Y10N23Y9N31Y65N19Y1N2Y10N22Y10N26Y6N26Y38N56Y6N2Y64N4Y1N2Y
      5N8Y1N3Y1N29Y2N3Y4N1Y32N29Y3N29Y35N8Y1N30Y25N54Y10N22Y10N19Y13N18Y110N73Y55N51Y13N51Y13N40Y8N10Y6N38Y3N5Y1
      N23Y250N42Y1N2Y3N2Y16N6Y50N35Y10N1Y8N33Y31N22Y42N21Y27N23Y9N71Y31N16Y9N60Y7N1Y13N25Y7N10Y6N53Y1N10Y4N4Y8N3
      6Y2N1Y9N69Y4N4Y1N13Y1N1Y35N18Y1N37Y6N4Y62N7Y1N1Y1N4Y1N15Y1N10Y7N59Y5N10Y6N4Y1N8Y2N2Y2N22Y1N7Y1N2Y1N5Y1N10Y
      2N2Y2N3Y2N1Y6N1Y5N7Y2N7Y3N5Y11N10Y1N1Y2N1Y1N38Y1N10Y1N1Y2N1Y1N4Y1N8Y13N2Y29N75Y5N10Y4N4Y30N70Y1N1Y8N10Y166
      N54Y2N9Y23N6Y34N65Y3N1Y11N10Y38N57Y7N10Y6N20Y28N27Y2N15Y4N10Y6N7Y185N59Y101N74Y21N8Y2N1Y2N8Y1N2Y1N30Y1N2Y2
      N9Y12N10Y70N8Y2N46Y2N8Y1N2Y27N63Y8N1Y8N74Y3N1Y18N73Y103N8Y88N33Y15N10Y6N9Y1N45Y1N9Y15N10Y24N30Y2N22Y1N14Y7
      3N7Y1N2Y1N44Y3N1Y1N2Y1N9Y8N10Y6N6Y1N2Y1N37Y1N2Y1N6Y7N10Y6N44Y4N10Y246N23Y9N17Y1N41Y3N5Y13N11Y85N1Y79N922Y1
      02N111Y17N196Y2636N97Y15N1072Y16N22Y10N3995Y5N583Y6841N58Y1734N569Y7N31Y1N10Y6N79Y1N10Y6N30Y2N5Y11N55Y9N4Y
      12N10Y9N21Y5N19Y432N45Y3N10Y198N64Y32N25Y2N25Y44N75Y4N57Y7N17Y64N2Y1N2Y11N7Y9N7382Y41N32Y97N115Y8701N4Y1N7
      Y1N2Y1N291Y15N1Y29N3Y2N1Y14N4Y8N396Y2308N107Y5N13Y3N9Y7N10Y3N2Y4177N10Y518N46Y2N23Y542N5Y3N6Y8N8Y2N7Y30N4Y
      148N3Y443N85Y1N71Y1N2Y2N1Y2N2Y2N4Y1N12Y1N1Y1N7Y1N65Y1N4Y2N8Y1N7Y1N28Y1N4Y1N5Y1N1Y3N7Y1N340Y2N25Y1N25Y1N31Y
      1N25Y1N31Y1N25Y1N31Y1N25Y1N31Y1N25Y1N8Y2N50Y512N55Y4N50Y8N1Y14N1Y22N5Y1N15Y1104N31Y6N6Y213N7Y1N17Y2N7Y1N2Y
      1N5Y5N62Y33N1Y112N45Y3N14Y2N10Y4N1Y321N31Y17N58Y470N42Y214N43Y197N31Y1N22Y8N2Y224N7Y1N4Y1N2Y1N15Y1N197Y11N
      7Y41N76Y4N10Y1190N4Y1N27Y1N2Y1N1Y2N1Y1N10Y1N4Y1N1Y1N1Y6N1Y4N1Y1N1Y1N1Y1N3Y1N2Y1N1Y2N1Y1N1Y1N1Y1N1Y1N1Y1N2Y
      1N1Y2N4Y1N7Y1N4Y1N4Y1N1Y1N10Y1N17Y5N3Y1N5Y1N17Y3380N10Y1030N42720Y32N4382Y2N5774Y2N7473Y15N622Y2466N542Y15
      06N4939Y5N8490Y707718N240Y196112N" },
   { names := ["XID_Start", "XIDS"], runs :=
      "65N26Y6N26Y47N1Y10N1Y4N1Y5N23Y1N31Y1N458Y4N12Y14N5Y7N1Y1N1Y129N5Y1N2Y3N3Y1N1Y6N1Y1N3Y1N1Y1N20Y1N83Y1N139Y8
      N166Y1N38Y2N1Y6N41Y71N27Y4N4Y45N43Y35N2Y1N99Y1N1Y15N2Y7N2Y10N3Y2N1Y16N1Y1N30Y29N89Y11N1Y24N33Y9N2Y4N1Y5N22
      Y4N1Y9N1Y3N1Y23N25Y7N11Y5N24Y1N7Y16N42Y58N54Y3N1Y18N1Y7N10Y15N16Y4N8Y2N2Y2N22Y1N7Y1N1Y3N4Y3N1Y16N1Y13N2Y1N
      3Y14N2Y10N1Y8N6Y4N2Y2N22Y1N7Y1N2Y1N2Y1N2Y31N4Y1N1Y19N3Y16N9Y1N3Y1N22Y1N7Y1N2Y1N5Y3N1Y18N1Y15N2Y23N1Y11N8Y2
      N2Y2N22Y1N7Y1N2Y1N5Y3N1Y30N2Y1N3Y15N1Y17N1Y1N6Y3N3Y1N4Y3N2Y1N1Y1N2Y3N2Y3N3Y3N12Y22N1Y52N8Y1N3Y1N23Y1N16Y3N
      1Y26N3Y1N2Y2N2Y30N1Y4N8Y1N3Y1N23Y1N10Y1N5Y3N1Y30N3Y1N2Y15N2Y17N9Y1N3Y1N41Y2N1Y16N1Y5N3Y8N3Y24N6Y5N18Y3N24Y
      1N9Y1N1Y2N7Y58N48Y1N1Y13N7Y58N2Y1N1Y1N5Y1N24Y1N1Y1N10Y1N1Y10N1Y2N5Y1N1Y21N4Y32N1Y63N8Y1N36Y27N5Y115N43Y20N
      1Y16N6Y4N4Y3N1Y3N2Y7N3Y4N13Y12N1Y17N38Y1N1Y5N1Y2N43Y1N333Y1N4Y2N7Y1N1Y1N4Y2N41Y1N4Y2N33Y1N4Y2N7Y1N1Y1N4Y2N
      15Y1N57Y1N4Y2N67Y37N16Y16N86Y2N6Y3N620Y2N17Y1N26Y5N75Y3N11Y7N18Y13N19Y14N18Y14N13Y1N3Y15N52Y35N1Y4N1Y67N89
      Y7N41Y1N1Y5N70Y10N31Y49N30Y2N5Y11N44Y4N26Y54N23Y9N53Y82N1Y93N47Y17N8Y54N30Y13N2Y10N44Y26N36Y41N3Y10N36Y2N1
      1Y5N43Y2N3Y41N4Y1N6Y1N2Y3N1Y5N192Y64N278Y2N6Y2N38Y2N6Y2N8Y1N1Y1N1Y1N1Y1N31Y2N53Y1N7Y1N1Y3N3Y1N7Y3N4Y2N6Y4N
      13Y5N3Y1N7Y116N1Y13N1Y16N13Y101N1Y4N1Y2N10Y1N1Y2N6Y6N1Y1N1Y1N1Y1N16Y2N4Y5N5Y4N1Y17N41Y2679N229Y6N4Y3N2Y12N
      38Y1N1Y5N1Y2N56Y7N1Y16N23Y9N7Y1N7Y1N7Y1N7Y1N7Y1N7Y1N7Y1N7Y550N3Y25N9Y7N5Y2N5Y4N86Y6N3Y1N90Y1N4Y5N43Y1N94Y1
      7N32Y48N16Y512N6592Y64N22157Y67N46Y2N269Y3N16Y10N2Y20N47Y16N31Y2N80Y39N9Y2N103Y2N82Y20N17Y1N3Y1N4Y1N23Y29N
      52Y14N50Y62N6Y3N1Y1N2Y11N28Y10N23Y25N29Y7N47Y28N1Y16N5Y1N10Y10N5Y1N41Y23N3Y1N8Y20N23Y3N1Y3N50Y1N1Y3N2Y2N5Y
      2N1Y1N1Y24N3Y2N11Y7N3Y12N6Y2N6Y2N6Y9N7Y1N7Y1N43Y1N14Y6N115Y29N11172Y12N23Y4N49Y8452N366Y2N106Y38N7Y12N5Y5N
      1Y1N10Y1N13Y1N5Y1N1Y1N2Y1N2Y1N108Y33N139Y6N218Y18N64Y2N54Y40N10Y119N1Y1N1Y3N1Y1N1Y1N1Y1N1Y1N126Y36N26Y6N26
      Y11N56Y2N31Y3N6Y2N6Y2N6Y2N3Y35N12Y1N26Y1N19Y1N2Y1N15Y2N14Y34N123Y69N53Y267N29Y3N49Y47N32Y13N30Y5N38Y10N30Y
      2N36Y4N8Y1N5Y42N158Y18N36Y4N36Y4N40Y8N52Y12N11Y1N15Y1N7Y1N2Y1N11Y1N15Y1N7Y1N2Y3N52Y12N311Y9N22Y10N8Y24N6Y1
      N42Y1N9Y69N6Y2N1Y1N44Y1N2Y3N1Y2N23Y10N23Y9N31Y65N19Y1N2Y10N22Y10N26Y6N26Y38N56Y6N2Y64N1Y15N4Y1N3Y1N29Y42N2
      9Y3N29Y35N8Y1N28Y27N54Y10N22Y10N19Y13N18Y110N73Y55N51Y13N51Y13N36Y38N28Y9N23Y250N42Y6N2Y16N6Y56N29Y10N1Y8N
      22Y42N18Y46N21Y27N23Y12N53Y57N2Y2N1Y13N45Y32N25Y26N36Y29N1Y2N1Y8N35Y3N1Y12N48Y14N4Y21N1Y1N1Y35N18Y1N25Y19N
      2Y63N7Y1N1Y1N4Y1N15Y1N10Y7N47Y38N8Y2N2Y2N22Y1N7Y1N2Y1N5Y3N1Y18N1Y12N5Y30N10Y1N1Y2N1Y1N38Y1N1Y25N1Y1N1Y44N5
      3Y18N4Y20N3Y30N48Y20N2Y1N1Y184N47Y41N4Y36N48Y20N1Y59N43Y13N1Y71N27Y37N7Y185N44Y116N64Y31N8Y2N1Y2N8Y1N2Y1N2
      4Y15N1Y1N1Y94N8Y2N39Y16N1Y1N1Y28N1Y10N40Y7N1Y21N1Y11N46Y19N1Y18N73Y199N33Y31N9Y1N37Y17N1Y49N30Y112N7Y1N2Y1
      N38Y21N1Y25N6Y1N2Y1N32Y14N1Y23N44Y260N19Y15N1Y1N13Y1N34Y124N1Y79N922Y102N111Y17N196Y2636N97Y15N1072Y17N6Y2
      5N3995Y5N583Y6841N30Y1762N569Y7N31Y17N79Y17N30Y18N48Y16N4Y31N21Y5N19Y432N45Y211N64Y32N25Y2N25Y44N75Y5N1Y66
      N13Y64N2Y1N1Y14N5Y9N7382Y41N32Y97N115Y8701N4Y1N7Y1N2Y1N291Y15N1Y29N3Y2N1Y14N4Y8N396Y2308N107Y5N13Y3N9Y7N10
      Y5990N85Y1N71Y1N2Y2N1Y2N2Y2N4Y1N12Y1N1Y1N7Y1N65Y1N4Y2N8Y1N7Y1N28Y1N4Y1N5Y1N1Y3N7Y1N340Y2N25Y1N25Y1N31Y1N25
      Y1N31Y1N25Y1N31Y1N25Y1N31Y1N25Y1N8Y1844N31Y6N6Y261N62Y146N45Y10N7Y16N1Y321N30Y18N44Y484N28Y228N30Y2N1Y207N
      31Y1N3Y1N2Y1N7Y2N5Y9N2Y224N7Y1N4Y1N2Y1N15Y1N197Y59N68Y7N1Y1204N4Y1N27Y1N2Y1N1Y2N1Y1N10Y1N4Y1N1Y1N1Y6N1Y4N1
      Y1N1Y1N1Y1N3Y1N2Y1N1Y2N1Y1N1Y1N1Y1N1Y1N1Y1N2Y1N1Y2N4Y1N7Y1N4Y1N4Y1N1Y1N10Y1N17Y5N3Y1N5Y1N17Y4420N42720Y32N
      4382Y2N5774Y2N7473Y15N622Y2466N542Y1506N4939Y5N8490Y904070N" }]

/-- The code points with a binary property, as ranges. -/
def BinaryProperty.ranges (property : BinaryProperty) : List (Nat × Nat) :=
  (Runs.ofText property.runs).ranges (· == "Y")

end SchemaSdl.Text
