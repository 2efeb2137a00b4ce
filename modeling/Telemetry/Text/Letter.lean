import Telemetry.Text.Runs

/-!
# Letters and their case

The Unicode properties Alphabetic, Lowercase and Uppercase: a run named `Y` has the property, one
named `N` has not.
-/

namespace Telemetry.Text

def alphabeticTable : List Run := runs [
  "N65Y26N6Y26N47Y1N10Y1N4Y1N5Y23N1Y31N1Y458N4Y12N14Y5N7Y1N1Y1N86Y1N29Y18N1Y2N2Y4N1Y1N6Y1N1Y3N1Y1",
  "N1Y20N1Y83N1Y139N8Y166N1Y38N2Y1N6Y41N39Y14N1Y1N1Y2N1Y2N1Y1N8Y27N4Y4N29Y11N5Y56N1Y7N14Y102N1Y8",
  "N4Y8N4Y3N10Y3N2Y1N16Y48N13Y101N24Y33N9Y2N4Y1N5Y24N2Y19N19Y25N7Y11N5Y24N1Y6N8Y1N8Y42N10Y12N3Y7",
  "N6Y76N1Y16N1Y3N4Y15N13Y19N1Y8N2Y2N2Y22N1Y7N1Y1N3Y4N3Y8N2Y2N2Y2N1Y1N8Y1N4Y2N1Y5N12Y2N10Y1N4Y3N1",
  "Y6N4Y2N2Y22N1Y7N1Y2N1Y2N1Y2N4Y5N4Y2N2Y2N4Y1N7Y4N1Y1N17Y6N11Y3N1Y9N1Y3N1Y22N1Y7N1Y2N1Y5N3Y9N1Y3",
  "N1Y2N3Y1N15Y4N21Y4N4Y3N1Y8N2Y2N2Y22N1Y7N1Y2N1Y5N3Y8N2Y2N2Y2N9Y2N4Y2N1Y5N13Y1N16Y2N1Y6N3Y3N1Y4",
  "N3Y2N1Y1N1Y2N3Y2N3Y3N3Y12N4Y5N3Y3N1Y3N3Y1N6Y1N40Y13N1Y3N1Y23N1Y16N3Y8N1Y3N1Y3N8Y2N1Y3N2Y1N2Y4",
  "N28Y4N1Y8N1Y3N1Y23N1Y10N1Y5N3Y8N1Y3N1Y3N8Y2N6Y2N1Y4N13Y3N12Y13N1Y3N1Y41N2Y8N1Y3N1Y3N1Y1N5Y4N7",
  "Y5N22Y6N1Y3N1Y18N3Y24N1Y9N1Y1N2Y7N8Y6N1Y1N1Y8N18Y2N13Y58N5Y7N6Y1N51Y2N1Y1N1Y5N1Y24N1Y1N1Y19N1",
  "Y3N2Y5N1Y1N6Y1N14Y4N32Y1N63Y8N1Y36N4Y19N4Y16N1Y36N67Y55N1Y1N2Y5N16Y64N10Y4N2Y38N1Y1N5Y1N2Y43N1",
  "Y333N1Y4N2Y7N1Y1N1Y4N2Y41N1Y4N2Y33N1Y4N2Y7N1Y1N1Y4N2Y15N1Y57N1Y4N2Y67N37Y16N16Y86N2Y6N3Y620N2",
  "Y17N1Y26N5Y75N3Y11N7Y20N11Y21N12Y20N12Y13N1Y3N1Y2N12Y52N2Y19N14Y1N4Y1N67Y89N7Y43N5Y70N10Y31N1",
  "Y12N4Y9N23Y30N2Y5N11Y44N4Y26N54Y28N4Y63N2Y20N50Y1N23Y2N11Y3N49Y52N1Y15N1Y8N51Y42N2Y4N10Y44N1",
  "Y11N14Y55N22Y3N10Y36N2Y11N5Y43N2Y3N41Y4N1Y6N1Y2N3Y1N5Y192N19Y34N11Y278N2Y6N2Y38N2Y6N2Y8N1Y1N1",
  "Y1N1Y1N1Y31N2Y53N1Y7N1Y1N3Y3N1Y7N3Y4N2Y6N4Y13N5Y3N1Y7N116Y1N13Y1N16Y13N101Y1N4Y1N2Y10N1Y1N3Y5",
  "N6Y1N1Y1N1Y1N1Y4N1Y11N2Y4N5Y5N4Y1N17Y41N813Y52N1814Y229N6Y4N3Y2N12Y38N1Y1N5Y1N2Y56N7Y1N16Y23N9",
  "Y7N1Y7N1Y7N1Y7N1Y7N1Y7N1Y7N1Y7N1Y32N47Y1N469Y3N25Y9N7Y5N2Y5N4Y86N6Y3N1Y90N1Y4N5Y43N1Y94N17Y32",
  "N48Y16N512Y6592N64Y22157N67Y46N2Y269N3Y16N10Y2N20Y47N5Y8N3Y113N39Y9N2Y103N2Y67N2Y2N1Y1N1Y8N21",
  "Y20N1Y33N24Y52N12Y68N1Y1N44Y6N3Y1N1Y3N10Y33N5Y35N13Y29N3Y51N1Y12N15Y1N16Y16N10Y5N1Y55N9Y14N18",
  "Y23N3Y69N1Y1N1Y1N24Y3N2Y16N2Y4N11Y6N2Y6N2Y6N9Y7N1Y7N1Y43N1Y14N6Y123N21Y11172N12Y23N4Y49N8452",
  "Y366N2Y106N38Y7N12Y5N5Y12N1Y13N1Y5N1Y1N1Y2N1Y2N1Y108N33Y363N18Y64N2Y54N40Y12N116Y5N1Y135N36Y26",
  "N6Y26N11Y89N3Y6N2Y6N2Y6N2Y3N35Y12N1Y26N1Y19N1Y2N1Y15N2Y14N34Y123N69Y53N267Y29N3Y49N47Y32N13Y30",
  "N5Y43N5Y30N2Y36N4Y8N1Y5N42Y158N18Y36N4Y36N4Y40N8Y52N12Y11N1Y15N1Y7N1Y2N1Y11N1Y15N1Y7N1Y2N3Y52",
  "N12Y311N9Y22N10Y8N24Y6N1Y42N1Y9N69Y6N2Y1N1Y44N1Y2N3Y1N2Y23N10Y23N9Y31N65Y19N1Y2N10Y22N10Y26N70",
  "Y56N6Y2N64Y4N1Y2N5Y8N1Y3N1Y29N42Y29N3Y29N35Y8N1Y28N27Y54N10Y22N10Y19N13Y18N110Y73N55Y51N13Y51",
  "N13Y40N34Y28N3Y1N5Y23N250Y42N1Y2N3Y2N16Y3N55Y1N3Y29N10Y1N8Y22N42Y18N46Y21N27Y23N9Y70N43Y5N10",
  "Y57N9Y1N13Y25N23Y51N17Y4N8Y35N3Y1N9Y64N1Y4N9Y2N10Y1N1Y1N35Y18N1Y34N2Y1N6Y4N62Y7N1Y1N1Y4N1Y15N1",
  "Y10N7Y57N23Y4N1Y8N2Y2N2Y22N1Y7N1Y2N1Y5N3Y8N2Y2N2Y2N3Y1N6Y1N5Y7N28Y10N1Y1N2Y1N1Y38N1Y10N1Y1N2Y1",
  "N1Y4N1Y2N3Y1N1Y1N44Y66N1Y3N1Y4N20Y3N30Y66N2Y2N1Y1N184Y54N2Y7N25Y6N34Y63N1Y1N3Y1N59Y54N2Y1N71",
  "Y27N2Y14N21Y7N185Y57N103Y64N31Y8N2Y1N2Y8N1Y2N1Y30N1Y2N2Y2N2Y4N93Y8N2Y46N2Y6N1Y1N1Y2N27Y51N2Y10",
  "N17Y72N5Y1N18Y73N199Y33N31Y9N1Y45N1Y7N1Y1N49Y30N2Y22N1Y14N73Y7N1Y2N1Y44N3Y1N1Y2N1Y3N1Y1N2Y2N24",
  "Y6N1Y2N1Y37N1Y2N1Y4N1Y1N327Y23N9Y17N1Y41N3Y3N111Y1N79Y922N102Y111N17Y196N2636Y97N15Y1072N17Y6",
  "N25Y3995N5Y583N6841Y47N1745Y569N7Y31N17Y79N17Y30N18Y48N16Y4N31Y21N5Y19N432Y45N211Y64N128Y75N4",
  "Y57N7Y17N64Y2N1Y1N12Y2N14Y6136N8Y1238N41Y10N8935Y4N1Y7N1Y2N1Y291N15Y1N29Y3N2Y1N14Y4N8Y396N2308",
  "Y107N5Y13N3Y9N7Y10N4Y1N5985Y85N1Y71N1Y2N2Y1N2Y2N2Y4N1Y12N1Y1N1Y7N1Y65N1Y4N2Y8N1Y7N1Y28N1Y4N1Y5",
  "N1Y1N3Y7N1Y340N2Y25N1Y25N1Y31N1Y25N1Y31N1Y25N1Y31N1Y25N1Y31N1Y25N1Y8N1844Y31N6Y6N213Y7N1Y17N2",
  "Y7N1Y2N1Y5N5Y62N33Y1N112Y45N10Y7N16Y1N321Y30N18Y44N484Y28N228Y30N2Y1N495Y7N1Y4N1Y2N1Y15N1Y197",
  "N59Y68N3Y1N3Y1N1204Y4N1Y27N1Y2N1Y1N2Y1N1Y10N1Y4N1Y1N1Y1N6Y1N4Y1N1Y1N1Y1N1Y3N1Y2N1Y1N2Y1N1Y1N1",
  "Y1N1Y1N1Y1N1Y2N1Y1N2Y4N1Y7N1Y4N1Y4N1Y1N1Y10N1Y17N5Y3N1Y5N1Y17N628Y26N6Y26N6Y26N3702Y42720N32",
  "Y4154N6Y222N2Y5762N14Y7473N15Y622N2466Y542N1506Y4939N5Y4192N908368"]

def lowercaseTable : List Run := runs [
  "N97Y26N47Y1N10Y1N4Y1N36Y24N1Y8N1Y1N1Y1N1Y1N1Y1N1Y1N1Y1N1Y1N1Y1N1Y1N1Y1N1Y1N1Y1N1Y1N1Y1N1Y1N1Y1",
  "N1Y1N1Y1N1Y1N1Y1N1Y1N1Y1N1Y1N1Y1N1Y1N1Y1N1Y1N1Y2N1Y1N1Y1N1Y1N1Y1N1Y1N1Y1N1Y1N1Y2N1Y1N1Y1N1Y1N1",
  "Y1N1Y1N1Y1N1Y1N1Y1N1Y1N1Y1N1Y1N1Y1N1Y1N1Y1N1Y1N1Y1N1Y1N1Y1N1Y1N1Y1N1Y1N1Y1N1Y1N2Y1N1Y1N1Y3N2Y1",
  "N1Y1N2Y1N3Y2N4Y1N2Y1N3Y3N2Y1N2Y1N1Y1N1Y1N2Y1N1Y2N1Y1N2Y1N3Y1N1Y1N2Y2N2Y3N6Y1N2Y1N2Y1N1Y1N1Y1N1",
  "Y1N1Y1N1Y1N1Y1N1Y1N1Y2N1Y1N1Y1N1Y1N1Y1N1Y1N1Y1N1Y1N1Y1N1Y2N2Y1N1Y1N3Y1N1Y1N1Y1N1Y1N1Y1N1Y1N1Y1",
  "N1Y1N1Y1N1Y1N1Y1N1Y1N1Y1N1Y1N1Y1N1Y1N1Y1N1Y1N1Y1N1Y1N1Y1N1Y1N1Y1N1Y1N1Y1N1Y1N1Y1N1Y1N1Y1N1Y7N2",
  "Y1N2Y2N1Y1N4Y1N1Y1N1Y1N1Y1N1Y69N2Y35N7Y2N30Y5N96Y1N43Y1N1Y1N3Y1N2Y4N18Y1N27Y35N1Y2N3Y3N1Y1N1Y1",
  "N1Y1N1Y1N1Y1N1Y1N1Y1N1Y1N1Y1N1Y1N1Y1N1Y5N1Y1N2Y1N2Y2N51Y48N1Y1N1Y1N1Y1N1Y1N1Y1N1Y1N1Y1N1Y1N1Y1",
  "N1Y1N1Y1N1Y1N1Y1N1Y1N1Y1N1Y1N1Y1N9Y1N1Y1N1Y1N1Y1N1Y1N1Y1N1Y1N1Y1N1Y1N1Y1N1Y1N1Y1N1Y1N1Y1N1Y1N1",
  "Y1N1Y1N1Y1N1Y1N1Y1N1Y1N1Y1N1Y1N1Y1N1Y1N1Y1N1Y1N2Y1N1Y1N1Y1N1Y1N1Y1N1Y1N1Y2N1Y1N1Y1N1Y1N1Y1N1Y1",
  "N1Y1N1Y1N1Y1N1Y1N1Y1N1Y1N1Y1N1Y1N1Y1N1Y1N1Y1N1Y1N1Y1N1Y1N1Y1N1Y1N1Y1N1Y1N1Y1N1Y1N1Y1N1Y1N1Y1N1",
  "Y1N1Y1N1Y1N1Y1N1Y1N1Y1N1Y1N1Y1N1Y1N1Y1N1Y1N1Y1N1Y1N1Y1N1Y1N1Y1N1Y1N1Y1N1Y1N1Y1N48Y41N2887Y43N1",
  "Y4N760Y6N2178Y9N1Y1N117Y192N65Y1N1Y1N1Y1N1Y1N1Y1N1Y1N1Y1N1Y1N1Y1N1Y1N1Y1N1Y1N1Y1N1Y1N1Y1N1Y1N1",
  "Y1N1Y1N1Y1N1Y1N1Y1N1Y1N1Y1N1Y1N1Y1N1Y1N1Y1N1Y1N1Y1N1Y1N1Y1N1Y1N1Y1N1Y1N1Y1N1Y1N1Y1N1Y1N1Y1N1Y1",
  "N1Y1N1Y1N1Y1N1Y1N1Y1N1Y1N1Y1N1Y1N1Y1N1Y1N1Y1N1Y1N1Y1N1Y1N1Y1N1Y1N1Y1N1Y1N1Y1N1Y1N1Y1N1Y1N1Y1N1",
  "Y1N1Y1N1Y1N1Y1N1Y1N1Y1N1Y1N1Y1N1Y1N1Y1N1Y1N1Y9N1Y1N1Y1N1Y1N1Y1N1Y1N1Y1N1Y1N1Y1N1Y1N1Y1N1Y1N1Y1",
  "N1Y1N1Y1N1Y1N1Y1N1Y1N1Y1N1Y1N1Y1N1Y1N1Y1N1Y1N1Y1N1Y1N1Y1N1Y1N1Y1N1Y1N1Y1N1Y1N1Y1N1Y1N1Y1N1Y1N1",
  "Y1N1Y1N1Y1N1Y1N1Y1N1Y1N1Y1N1Y1N1Y1N1Y1N1Y1N1Y1N1Y1N1Y9N8Y6N10Y8N8Y8N8Y6N10Y8N8Y8N8Y14N2Y8N8Y8",
  "N8Y8N8Y5N1Y2N6Y1N3Y3N1Y2N8Y4N2Y2N8Y8N10Y3N1Y2N121Y1N13Y1N16Y13N109Y1N3Y2N3Y1N27Y1N4Y1N4Y1N2Y2",
  "N8Y4N4Y1N33Y16N4Y1N843Y26N1862Y48N1Y1N3Y2N1Y1N1Y1N1Y1N4Y1N1Y2N1Y8N3Y1N1Y1N1Y1N1Y1N1Y1N1Y1N1Y1",
  "N1Y1N1Y1N1Y1N1Y1N1Y1N1Y1N1Y1N1Y1N1Y1N1Y1N1Y1N1Y1N1Y1N1Y1N1Y1N1Y1N1Y1N1Y1N1Y1N1Y1N1Y1N1Y1N1Y1N1",
  "Y1N1Y1N1Y1N1Y1N1Y1N1Y1N1Y1N1Y1N1Y1N1Y1N1Y1N1Y1N1Y1N1Y1N1Y1N1Y1N1Y1N1Y1N1Y1N1Y2N7Y1N1Y1N4Y1N12",
  "Y38N1Y1N5Y1N30995Y1N1Y1N1Y1N1Y1N1Y1N1Y1N1Y1N1Y1N1Y1N1Y1N1Y1N1Y1N1Y1N1Y1N1Y1N1Y1N1Y1N1Y1N1Y1N1",
  "Y1N1Y1N1Y1N1Y1N19Y1N1Y1N1Y1N1Y1N1Y1N1Y1N1Y1N1Y1N1Y1N1Y1N1Y1N1Y1N1Y1N1Y3N133Y1N1Y1N1Y1N1Y1N1Y1",
  "N1Y1N1Y3N1Y1N1Y1N1Y1N1Y1N1Y1N1Y1N1Y1N1Y1N1Y1N1Y1N1Y1N1Y1N1Y1N1Y1N1Y1N1Y1N1Y1N1Y1N1Y1N1Y1N1Y1N1",
  "Y1N1Y1N1Y1N1Y1N1Y1N1Y1N1Y1N1Y1N1Y1N1Y10N1Y1N1Y1N2Y1N1Y1N1Y1N1Y1N1Y1N4Y1N1Y1N2Y1N1Y3N1Y1N1Y1N1",
  "Y1N1Y1N1Y1N1Y1N1Y1N1Y1N1Y1N1Y1N5Y1N5Y1N1Y1N1Y1N1Y1N1Y1N1Y1N1Y1N1Y1N4Y1N1Y1N2Y1N3Y1N1Y1N1Y1N1Y1",
  "N1Y1N1Y1N22Y3N1Y1N1Y3N821Y43N1Y14N6Y80N20288Y7N12Y5N1065Y26N1229Y40N136Y36N155Y11N1Y15N1Y7N1Y2",
  "N451Y1N2Y3N1Y42N1Y9N1285Y51N125Y22N2874Y32N21888Y32N26010Y26N26Y7N1Y18N26Y26N26Y4N1Y1N1Y7N1Y11",
  "N26Y26N26Y26N26Y26N26Y26N26Y26N26Y26N26Y26N26Y26N26Y28N28Y25N1Y6N26Y25N1Y6N26Y25N1Y6N26Y25N1Y6",
  "N26Y25N1Y6N1Y1N1844Y10N1Y20N6Y6N261Y62N2228Y34N988860"]

def uppercaseTable : List Run := runs [
  "N65Y26N101Y23N1Y7N33Y1N1Y1N1Y1N1Y1N1Y1N1Y1N1Y1N1Y1N1Y1N1Y1N1Y1N1Y1N1Y1N1Y1N1Y1N1Y1N1Y1N1Y1N1Y1",
  "N1Y1N1Y1N1Y1N1Y1N1Y1N1Y1N1Y1N1Y1N1Y1N2Y1N1Y1N1Y1N1Y1N1Y1N1Y1N1Y1N1Y1N2Y1N1Y1N1Y1N1Y1N1Y1N1Y1N1",
  "Y1N1Y1N1Y1N1Y1N1Y1N1Y1N1Y1N1Y1N1Y1N1Y1N1Y1N1Y1N1Y1N1Y1N1Y1N1Y1N1Y1N1Y2N1Y1N1Y1N3Y2N1Y1N1Y2N1Y3",
  "N2Y4N1Y2N1Y3N3Y2N1Y2N1Y1N1Y1N1Y2N1Y1N2Y1N1Y2N1Y3N1Y1N1Y2N3Y1N7Y1N2Y1N2Y1N2Y1N1Y1N1Y1N1Y1N1Y1N1",
  "Y1N1Y1N1Y1N2Y1N1Y1N1Y1N1Y1N1Y1N1Y1N1Y1N1Y1N1Y1N2Y1N2Y1N1Y3N1Y1N1Y1N1Y1N1Y1N1Y1N1Y1N1Y1N1Y1N1Y1",
  "N1Y1N1Y1N1Y1N1Y1N1Y1N1Y1N1Y1N1Y1N1Y1N1Y1N1Y1N1Y1N1Y1N1Y1N1Y1N1Y1N1Y1N1Y1N1Y1N1Y1N7Y2N1Y2N2Y1N1",
  "Y4N1Y1N1Y1N1Y1N1Y1N289Y1N1Y1N3Y1N8Y1N6Y1N1Y3N1Y1N1Y2N1Y17N1Y9N35Y1N2Y3N3Y1N1Y1N1Y1N1Y1N1Y1N1Y1",
  "N1Y1N1Y1N1Y1N1Y1N1Y1N1Y1N5Y1N2Y1N1Y2N2Y51N48Y1N1Y1N1Y1N1Y1N1Y1N1Y1N1Y1N1Y1N1Y1N1Y1N1Y1N1Y1N1Y1",
  "N1Y1N1Y1N1Y1N1Y1N9Y1N1Y1N1Y1N1Y1N1Y1N1Y1N1Y1N1Y1N1Y1N1Y1N1Y1N1Y1N1Y1N1Y1N1Y1N1Y1N1Y1N1Y1N1Y1N1",
  "Y1N1Y1N1Y1N1Y1N1Y1N1Y1N1Y1N1Y1N1Y2N1Y1N1Y1N1Y1N1Y1N1Y1N1Y1N2Y1N1Y1N1Y1N1Y1N1Y1N1Y1N1Y1N1Y1N1Y1",
  "N1Y1N1Y1N1Y1N1Y1N1Y1N1Y1N1Y1N1Y1N1Y1N1Y1N1Y1N1Y1N1Y1N1Y1N1Y1N1Y1N1Y1N1Y1N1Y1N1Y1N1Y1N1Y1N1Y1N1",
  "Y1N1Y1N1Y1N1Y1N1Y1N1Y1N1Y1N1Y1N1Y1N1Y1N1Y1N1Y1N1Y1N1Y1N1Y1N1Y1N2Y38N2889Y38N1Y1N5Y1N722Y86",
  "N2195Y1N6Y43N2Y3N320Y1N1Y1N1Y1N1Y1N1Y1N1Y1N1Y1N1Y1N1Y1N1Y1N1Y1N1Y1N1Y1N1Y1N1Y1N1Y1N1Y1N1Y1N1Y1",
  "N1Y1N1Y1N1Y1N1Y1N1Y1N1Y1N1Y1N1Y1N1Y1N1Y1N1Y1N1Y1N1Y1N1Y1N1Y1N1Y1N1Y1N1Y1N1Y1N1Y1N1Y1N1Y1N1Y1N1",
  "Y1N1Y1N1Y1N1Y1N1Y1N1Y1N1Y1N1Y1N1Y1N1Y1N1Y1N1Y1N1Y1N1Y1N1Y1N1Y1N1Y1N1Y1N1Y1N1Y1N1Y1N1Y1N1Y1N1Y1",
  "N1Y1N1Y1N1Y1N1Y1N1Y1N1Y1N1Y1N1Y1N1Y1N9Y1N1Y1N1Y1N1Y1N1Y1N1Y1N1Y1N1Y1N1Y1N1Y1N1Y1N1Y1N1Y1N1Y1N1",
  "Y1N1Y1N1Y1N1Y1N1Y1N1Y1N1Y1N1Y1N1Y1N1Y1N1Y1N1Y1N1Y1N1Y1N1Y1N1Y1N1Y1N1Y1N1Y1N1Y1N1Y1N1Y1N1Y1N1Y1",
  "N1Y1N1Y1N1Y1N1Y1N1Y1N1Y1N1Y1N1Y1N1Y1N1Y1N1Y1N9Y8N8Y6N10Y8N8Y8N8Y6N11Y1N1Y1N1Y1N1Y1N8Y8N72Y4N12",
  "Y4N12Y4N12Y5N11Y4N262Y1N4Y1N3Y3N2Y3N2Y1N3Y5N6Y1N1Y1N1Y1N1Y4N2Y4N10Y2N5Y1N26Y16N19Y1N818Y26",
  "N1840Y48N48Y1N1Y3N2Y1N1Y1N1Y1N1Y4N1Y1N2Y1N8Y3N1Y1N1Y1N1Y1N1Y1N1Y1N1Y1N1Y1N1Y1N1Y1N1Y1N1Y1N1Y1",
  "N1Y1N1Y1N1Y1N1Y1N1Y1N1Y1N1Y1N1Y1N1Y1N1Y1N1Y1N1Y1N1Y1N1Y1N1Y1N1Y1N1Y1N1Y1N1Y1N1Y1N1Y1N1Y1N1Y1N1",
  "Y1N1Y1N1Y1N1Y1N1Y1N1Y1N1Y1N1Y1N1Y1N1Y1N1Y1N1Y1N1Y1N1Y1N8Y1N1Y1N4Y1N31053Y1N1Y1N1Y1N1Y1N1Y1N1Y1",
  "N1Y1N1Y1N1Y1N1Y1N1Y1N1Y1N1Y1N1Y1N1Y1N1Y1N1Y1N1Y1N1Y1N1Y1N1Y1N1Y1N1Y1N19Y1N1Y1N1Y1N1Y1N1Y1N1Y1",
  "N1Y1N1Y1N1Y1N1Y1N1Y1N1Y1N1Y1N1Y1N135Y1N1Y1N1Y1N1Y1N1Y1N1Y1N1Y1N3Y1N1Y1N1Y1N1Y1N1Y1N1Y1N1Y1N1Y1",
  "N1Y1N1Y1N1Y1N1Y1N1Y1N1Y1N1Y1N1Y1N1Y1N1Y1N1Y1N1Y1N1Y1N1Y1N1Y1N1Y1N1Y1N1Y1N1Y1N1Y1N1Y1N1Y1N1Y1",
  "N10Y1N1Y1N1Y2N1Y1N1Y1N1Y1N1Y1N4Y1N1Y1N2Y1N1Y1N3Y1N1Y1N1Y1N1Y1N1Y1N1Y1N1Y1N1Y1N1Y1N1Y1N1Y5N1Y5",
  "N1Y1N1Y1N1Y1N1Y1N1Y1N1Y1N1Y1N1Y4N1Y1N1Y2N3Y1N5Y1N1Y1N1Y1N1Y1N24Y1N22315Y26N1221Y40N136Y36N156",
  "Y11N1Y15N1Y7N1Y2N1770Y51N157Y22N2874Y32N21888Y32N26016Y26N26Y26N26Y26N26Y1N1Y2N2Y1N2Y2N2Y4N1Y8",
  "N26Y26N26Y2N1Y4N2Y8N1Y7N27Y2N1Y4N1Y5N1Y1N3Y7N27Y26N26Y26N26Y26N26Y26N26Y26N26Y26N30Y25N33Y25",
  "N33Y25N33Y25N33Y25N33Y1N4405Y34N2062Y26N6Y26N6Y26N986742"]

def isAlphabetic (c : Char) : Bool := valueIn alphabeticTable c == "Y"

def isLowercase (c : Char) : Bool := valueIn lowercaseTable c == "Y"

def isUppercase (c : Char) : Bool := valueIn uppercaseTable c == "Y"

end Telemetry.Text
