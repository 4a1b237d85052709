import BundleConfig.Unicode.Script

/-!
# Script extensions

Some characters are used with several scripts, or with others than the one they
are assigned to.  The table lists them, a range at a time, with the letters of
their scripts.  Every other character is used with its own script only.
-/

namespace BundleConfig

namespace Unicode

/-- The table, as written.  A word is a range, a colon and the scripts. -/
def extensionRows : List String := [
  "b7:AvstCariCoptDuplElbaGeorGlagGongGothGrekHaniLatnLydiMahjPermShaw",
  "2bc:BengCyrlDevaLatnLisuThaiToto 2c7:BopoLatn 2c9-2cb:BopoLatn 2cd:LatnLisu 2d7:LatnThai",
  "2d9:BopoLatn 300:CherCoptCyrlGrekLatnPermSunuTale 301:CherCyrlGrekLatnOsgeSunuTaleTodr",
  "302:CherCyrlLatnTfng 303:GlagLatnSunuSyrcThai",
  "304:AghbCherCoptCyrlGothGrekLatnOsgeSyrcTfngTodr 305:CoptElbaGlagGothKanaLatn",
  "306:CyrlGrekLatnPerm 307:CoptDuplHebrLatnPermSyrcTaleTfngTodr",
  "308:ArmnCyrlDuplGothGrekHebrLatnPermSyrcTale 309:LatnTfng 30a:DuplLatnSyrc",
  "30b:CherCyrlLatnOsge 30c:CherLatnTale 30d:LatnSunu 30e:EthiLatn 310:LatnSunu",
  "311:CyrlLatnTodr 313:GrekLatnPermTodr 320:LatnSyrc 323:CherDuplKanaLatnSyrc",
  "324:CherDuplLatnSyrc 325:LatnSyrc 32d:LatnSunuSyrc 32e:LatnSyrc 330:CherLatnSyrc",
  "331:AghbCherGothLatnSunuThai 342:Grek 345:Grek 358:LatnOsge 35e:AghbLatnTodr 363-36f:Latn",
  "374-375:CoptGrek 483:CyrlPerm 484:CyrlGlag 485-486:CyrlLatn 487:CyrlGlag 589:ArmnGeorGlag",
  "60c:ArabGaraNkooRohgSyrcThaaYezi 61b:ArabGaraNkooRohgSyrcThaaYezi 61c:ArabSyrcThaa",
  "61f:AdlmArabGaraNkooRohgSyrcThaaYezi 640:AdlmArabMandManiOugrPhlpRohgSogdSyrc",
  "64b-655:ArabSyrc 660-669:ArabThaaYezi 670:ArabSyrc 6d4:ArabRohg",
  "951:BengDevaGranGujrGuruKndaLatnMlymOryaShrdTamlTeluTirh",
  "952:BengDevaGranGujrGuruKndaLatnMlymOryaTamlTeluTirh",
  "964:BengDevaDogrGongGonmGranGujrGuruKndaMahjMlymNandOnaoOryaSindSinhSyloTakrTamlTelu",
  "964:Tirh",
  "965:BengDevaDogrGongGonmGranGujrGukhGuruKndaLimbMahjMlymNandOnaoOryaSindSinhSyloTakr",
  "965:TamlTeluTirh 966-96f:DevaDogrKthiMahj 9e6-9ef:BengCakmSylo a66-a6f:GuruMult",
  "ae6-aef:GujrKhoj be6-bf3:GranTaml ce6-cef:KndaNandTutg 1040-1049:CakmMymrTale",
  "10fb:GeorGlagLatn 16eb-16ed:Runr 1735-1736:BuhdHanoTagbTglg 1802-1803:MongPhag 1805:MongPhag",
  "1cd0:BengDevaGranKnda 1cd1:Deva 1cd2:BengDevaGranKnda 1cd3:DevaGranKnda 1cd4:Deva",
  "1cd5-1cd6:BengDeva 1cd7:DevaShrd 1cd8:BengDeva 1cd9:DevaShrd 1cda:DevaKndaMlymOryaTamlTelu",
  "1cdb:Deva 1cdc-1cdd:DevaShrd 1cde-1cdf:Deva 1ce0:DevaShrd 1ce1:BengDeva 1ce2-1ce8:Deva",
  "1ce9:DevaNand 1cea:BengDeva 1ceb-1cec:Deva 1ced:BengDeva 1cee-1cf1:Deva",
  "1cf2:BengDevaGranKndaMlymNandOryaSinhTeluTirhTutg 1cf3:DevaGran 1cf4:DevaGranKndaTutg",
  "1cf5-1cf6:BengDeva 1cf7:Beng 1cf8-1cf9:DevaGran 1cfa:Nand 1dc0-1dc1:Grek 1df8:CyrlLatnSyrc",
  "1dfa:Syrc 202f:LatnMongPhag 204f:AdlmArab 205a:CariGeorGlagHungLyciOrkh",
  "205d:CariGrekHungMero 20f0:DevaGranLatn 2e17:CoptLatn 2e30:AvstOrkh",
  "2e31:AvstCariGeorHungKthiLydiSamr 2e3c:Dupl 2e41:AdlmArabHung 2e43:CyrlGlag",
  "2ff0-2fff:HaniTang 3001:BopoHangHaniHiraKanaMongYiii 3002:BopoHangHaniHiraKanaMongPhagYiii",
  "3003:BopoHangHaniHiraKana 3006:Hani 3008-3009:BopoHangHaniHiraKanaMongTibtYiii",
  "300a-300b:BopoHangHaniHiraKanaLisuMongTibtYiii 300c-3011:BopoHangHaniHiraKanaYiii",
  "3013:BopoHangHaniHiraKana 3014-301b:BopoHangHaniHiraKanaYiii 301c-301f:BopoHangHaniHiraKana",
  "302a-302d:BopoHani 3030:BopoHangHaniHiraKana 3031-3035:HiraKana 3037:BopoHangHaniHiraKana",
  "303c-303d:HaniHiraKana 303e-303f:Hani 3099-309c:HiraKana 30a0:HiraKana",
  "30fb:BopoHangHaniHiraKanaYiii 30fc:HiraKana 3190-319f:Hani 31c0-31e5:Hani 31ef:HaniTang",
  "3220-3247:Hani 3280-32b0:Hani 32c0-32cb:Hani 32ff:Hani 3358-3370:Hani 337b-337f:Hani",
  "33e0-33fe:Hani a66f:CyrlGlag a700-a707:HaniLatn",
  "a830-a832:DevaDogrGujrGuruKhojKndaKthiMahjMlymModiNandShrdSindTakrTirhTutg",
  "a833-a835:DevaDogrGujrGuruKhojKndaKthiMahjModiNandShrdSindTakrTirhTutg",
  "a836-a837:DevaDogrGujrGuruKhojKthiMahjModiSindTakrTirh",
  "a838:DevaDogrGujrGuruKhojKthiMahjModiShrdSindTakrTirh",
  "a839:DevaDogrGujrGuruKhojKthiMahjModiSindTakrTirh a8f1:BengDevaTutg a8f3:DevaTaml",
  "a92e:KaliLatnMymr a9cf:BugiJava fd3e-fd3f:ArabNkoo fdf2:ArabThaa fdfd:ArabThaa",
  "fe45-fe46:BopoHangHaniHiraKana ff61-ff65:BopoHangHaniHiraKanaYiii ff70:HiraKana",
  "ff9e-ff9f:HiraKana 10100-10101:CpmnCprtLinb 10102:CprtLinb 10107-10133:CprtLinaLinb",
  "10137-1013f:CprtLinb 102e0-102fb:ArabCopt 10af2:ManiOugr 11301:GranTaml 11303:GranTaml",
  "1133b-1133c:GranTaml 11fd0-11fd1:GranTaml 11fd3:GranTaml 1bca0-1bca3:Dupl 1d360-1d371:Hani",
  "1f250-1f251:Hani"]

/-- The scripts in a text of four letters each. -/
def fourLetters : List Char → List String
  | a :: b :: c :: d :: rest => String.ofList [a, b, c, d] :: fourLetters rest
  | _ => []

/-- The table. -/
def extensions : List (CodeRange × List String) :=
  (tableWords extensionRows).map fun word =>
    (wordRange (word.takeWhile (· != ':')), fourLetters ((word.dropWhile (· != ':')).drop 1))

/-- The characters that are used with a script. -/
def scriptExtension (letters : String) : CharSet :=
  let users : List CodeRange :=
    extensions.filterMap fun (r, scripts) => if scripts.contains letters then some r else none
  ((script letters).diff ⟨extensions.map (·.1)⟩).union ⟨users⟩

end Unicode

end BundleConfig
