import GradleMigration.Text.NameRun

/-
  The names of the ancient and lesser-used scripts from U+10000 to U+1CFFF.

  Key definitions include:
    * `ancientNames`

  Ideographs and syllables whose names follow a rule are left
  out.
-/

------------------------------------------------------------
-- The Table
------------------------------------------------------------

namespace GradleMigration

namespace Text

/- The names, as runs in increasing order. -/
def ancientNames : List NameRun :=
  [ ⟨0x10000,
      ["aLINEAR B SYLLABLE B008 AdB038 EdB028 IdB061 OdB010 UdB001 DAdB045 DEdB007 DIdB014 DO",
       "dB051 DUdB057 JAdB046 JE"]⟩,
    ⟨0x1000D,
      ["aLINEAR B SYLLABLE B036 JOdB065 JUdB077 KAdB044 KEdB067 KIdB070 KOdB081 KUdB080 MA",
       "dB013 MEdB073 MIdB015 MOdB023 MUdB006 NAdB024 NEdB030 NIdB052 NOdB055 NUdB003 PA",
       "dB072 PEdB039 PIdB011 POdB050 PUdB016 QAdB078 QEdB021 QIdB032 QO"]⟩,
    ⟨0x10028,
      ["aLINEAR B SYLLABLE B060 RAdB027 REdB053 RIdB002 ROdB026 RUdB031 SAdB009 SEdB041 SI",
       "dB012 SOdB058 SUdB059 TAdB004 TEdB037 TIdB005 TOdB069 TUdB054 WAdB075 WEdB040 WI",
       "dB042 WO"]⟩,
    ⟨0x1003C, ["aLINEAR B SYLLABLE B017 ZAdB074 ZE"]⟩,
    ⟨0x1003F,
      ["aLINEAR B SYLLABLE B020 ZOdB025 A2dB043 A3dB085 AUdB071 DWEdB090 DWOdB048 NWA",
       "dB029 PU2dB062 PTEdB076 RA2dB033 RA3dB068 RO2dB066 TA2dB087 TWEdB091 TWO"]⟩,
    ⟨0x10050,
      ["aLINEAR B SYMBOL B018dB019dB022dB034dB047dB049dB056dB063dB064dB079dB082dB083dB086",
       "dB089"]⟩,
    ⟨0x10080,
      ["aLINEAR B IDEOGRAM B100 MANdB102 WOMANdB104 DEERdB105 EQUIDdB105F MAREdB105M STALLION",
       "dB106F EWEdB106M RAMdB107F SHE-GOATdB107M HE-GOATdB108F SOWdB108M BOARdB109F COW",
       "dB109M BULLdB120 WHEATdB121 BARLEYdB122 OLIVEdB123 SPICEdB125 CYPERUS",
       "cMONOGRAM B127 KAPOdB128 KANAKOcIDEOGRAM B130 OILdB131 WINEdB132cMONOGRAM B133 AREPA",
       "dB135 MERIcIDEOGRAM B140 BRONZEdB141 GOLDdB142dB145 WOOLdB146dB150dB151 HORNdB152",
       "dB153dB154cMONOGRAM B156 TURO2cIDEOGRAM B157dB158dB159 CLOTHdB160dB161dB162 GARMENT",
       "dB163 ARMOURdB164dB165dB166dB167dB168dB169dB170dB171dB172dB173 MONTHdB174dB176 TREE",
       "dB177dB178dB179dB180dB181dB182dB183dB184dB185dB189dB190dB191 HELMETdB220 FOOTSTOOL",
       "dB225 BATHTUBdB230 SPEARdB231 ARROWdB232dB233 SWORDdB234dB236dB240 WHEELED CHARIOT",
       "dB241 CHARIOTdB242 CHARIOT FRAMEdB243 WHEELdB245dB246cMONOGRAM B247 DIPTE",
       "cIDEOGRAM B248dB249dB251dB252dB253dB254 DARTdB255dB256dB257dB258dB259dVESSEL B155",
       "eB200eB201eB202eB203eB204eB205eB206eB207eB208eB209eB210eB211eB212eB213eB214eB215eB216",
       "eB217eB218eB219eB221eB222eB226eB227eB228eB229eB250eB305"]⟩,
    ⟨0x10100, ["aAEGEAN WORD SEPARATOR LINEdDOTbCHECK MARK"]⟩,
    ⟨0x10107,
      ["aAEGEAN NUMBER ONEcTWOcTHREEcFOURcFIVEcSIXcSEVENcEIGHTcNINEcTENcTWENTYcTHIRTYcFORTY",
       "cFIFTYcSIXTYcSEVENTYcEIGHTYcNINETYcONE HUNDREDcTWO HUNDREDcTHREE HUNDREDcFOUR HUNDRED",
       "cFIVE HUNDREDcSIX HUNDREDcSEVEN HUNDREDcEIGHT HUNDREDcNINE HUNDREDcONE THOUSAND",
       "cTWO THOUSANDcTHREE THOUSANDcFOUR THOUSANDcFIVE THOUSANDcSIX THOUSANDcSEVEN THOUSAND",
       "cEIGHT THOUSANDcNINE THOUSANDcTEN THOUSANDcTWENTY THOUSANDcTHIRTY THOUSAND",
       "cFORTY THOUSANDcFIFTY THOUSANDcSIXTY THOUSANDcSEVENTY THOUSANDcEIGHTY THOUSAND",
       "cNINETY THOUSAND"]⟩,
    ⟨0x10137,
      ["aAEGEAN WEIGHT BASE UNITcFIRST SUBUNITcSECOND SUBUNITcTHIRD SUBUNITcFOURTH SUBUNIT",
       "bDRY MEASURE FIRST SUBUNITbLIQUID MEASURE FIRST SUBUNITbMEASURE SECOND SUBUNIT",
       "cTHIRD SUBUNITaGREEK ACROPHONIC ATTIC ONE QUARTEReHALFeDRACHMAdFIVEdFIFTY",
       "dFIVE HUNDREDeTHOUSANDdFIFTY THOUSANDdFIVE TALENTSdTEN TALENTSdFIFTY TALENTS",
       "dONE HUNDRED TALENTSdFIVE HUNDRED TALENTSdONE THOUSAND TALENTSdFIVE THOUSAND TALENTS",
       "eSTATERSdTEN STATERSdFIFTY STATERSdONE HUNDRED STATERSdFIVE HUNDRED STATERS",
       "dONE THOUSAND STATERSdTEN THOUSAND STATERSdFIFTY THOUSAND STATERSdTEN MNAS",
       "cHERAEUM ONE PLETHRONcTHESPIAN ONEcHERMIONIAN ONEcEPIDAUREAN TWOcTHESPIAN TWO",
       "cCYRENAIC TWO DRACHMAScEPIDAUREAN TWO DRACHMAScTROEZENIAN FIVEdTENdTEN ALTERNATE FORM",
       "cHERMIONIAN TENcMESSENIAN TENcTHESPIAN TENdTHIRTYcTROEZENIAN FIFTY",
       "dFIFTY ALTERNATE FORMcHERMIONIAN FIFTYcTHESPIAN FIFTYdONE HUNDREDdTHREE HUNDRED",
       "cEPIDAUREAN FIVE HUNDREDcTROEZENIAN FIVE HUNDREDcTHESPIAN FIVE HUNDRED",
       "cCARYSTIAN FIVE HUNDREDcNAXIAN FIVE HUNDREDcTHESPIAN ONE THOUSANDdFIVE THOUSAND",
       "cDELPHIC FIVE MNAScSTRATIAN FIFTY MNASbONE HALF SIGNdSIGN ALTERNATE FORM",
       "bTWO THIRDS SIGNbTHREE QUARTERS SIGNbYEAR SIGNbTALENT SIGNbDRACHMA SIGNbOBOL SIGN",
       "bTWO OBOLS SIGNbTHREE OBOLS SIGNbFOUR OBOLS SIGNbFIVE OBOLS SIGNbMETRETES SIGN",
       "bKYATHOS BASE SIGNbLITRA SIGNbOUNKIA SIGNbXESTES SIGNbARTABE SIGNbAROURA SIGN",
       "bGRAMMA SIGNbTRYBLION BASE SIGNbZERO SIGNbONE QUARTER SIGNbSINUSOID SIGN",
       "bINDICTION SIGNaNOMISMA SIGN"]⟩,
    ⟨0x10190,
      ["aROMAN SEXTANS SIGNbUNCIA SIGNbSEMUNCIA SIGNbSEXTULA SIGNbDIMIDIA SEXTULA SIGN",
       "bSILIQUA SIGNbDENARIUS SIGNbQUINARIUS SIGNbSESTERTIUS SIGNbDUPONDIUS SIGNbAS SIGN",
       "bCENTURIAL SIGNaASCIA SYMBOL"]⟩,
    ⟨0x101A0, ["aGREEK SYMBOL TAU RHO"]⟩,
    ⟨0x101D0,
      ["aPHAISTOS DISC SIGN PEDESTRIANdPLUMED HEADdTATTOOED HEADdCAPTIVEdCHILDdWOMANdHELMET",
       "dGAUNTLETdTIARAdARROWdBOWdSHIELDdCLUBdMANACLESdMATTOCKdSAWdLIDdBOOMERANG",
       "dCARPENTRY PLANEdDOLIUMdCOMBdSLINGdCOLUMNdBEEHIVEdSHIPdHORNdHIDEdBULLS LEGdCATdRAM",
       "dEAGLEdDOVEdTUNNYdBEEdPLANE TREEdVINEdPAPYRUSdROSETTEdLILYdOX BACKdFLUTEdGRATER",
       "dSTRAINERdSMALL AXEdWAVY BANDdCOMBINING OBLIQUE STROKE"]⟩,
    ⟨0x10280,
      ["aLYCIAN LETTER AcEcBcBHcGcDcIcWcZcTHcJcKcQcLcMcNcMMcNNcUcPcKKcRcScTcTTcANcENcHcX"]⟩,
    ⟨0x102A0,
      ["aCARIAN LETTER AcP2cDcLcUUUcRcLDcA2cQcBcMcOcD2cTcSHcSH2cScC-18cUcNNcXcNcTT2cPcSScIcE",
       "cUUUUcKcK2cNDcUUcGcG2cSTcST2cNGcIIcC-39cTTcUUU2cRRcMBcMB2cMB3cMB4cLD2cE2cUUU3"]⟩,
    ⟨0x102E0,
      ["aCOPTIC EPACT THOUSANDS MARKcDIGIT ONEdTWOdTHREEdFOURdFIVEdSIXdSEVENdEIGHTdNINE",
       "cNUMBER TENdTWENTYdTHIRTYdFORTYdFIFTYdSIXTYdSEVENTYdEIGHTYdNINETYdONE HUNDRED",
       "dTWO HUNDREDdTHREE HUNDREDdFOUR HUNDREDdFIVE HUNDREDdSIX HUNDREDdSEVEN HUNDRED",
       "dEIGHT HUNDREDdNINE HUNDRED"]⟩,
    ⟨0x10300,
      ["aOLD ITALIC LETTER AdBEdKEdDEdEdVEdZEdHEdTHEdIdKAdELdEMdENdESHdOdPEdSHEdKUdERdESdTEdU",
       "dEKSdPHEdKHEdEFdERSdCHEdIIdUUdESScNUMERAL ONEdFIVEdTENdFIFTY"]⟩,
    ⟨0x1032D,
      ["aOLD ITALIC LETTER YEdNORTHERN TSEdSOUTHERN TSEaGOTHIC LETTER AHSAcBAIRKANcGIBAcDAGS",
       "cAIHVUScQAIRTHRAcIUJAcHAGLcTHIUTHcEIScKUSMAcLAGUScMANNAcNAUTHScJERcURUScPAIRTHRA",
       "cNINETYcRAIDAcSAUILcTEIWScWINJAcFAIHUcIGGWScHWAIRcOTHALcNINE HUNDRED"]⟩,
    ⟨0x10350,
      ["aOLD PERMIC LETTER ANdBURdGAIdDOIdEdZHOIdDZHOIdZATAdDZITAdIdKOKEdLEIdMENOEdNENOEdVOOI",
       "dPEEIdREIdSIIdTAIdUdCHERYdSHOOIdSHCHOOIdYRYdYERUdOdOOdEFdHAdTSIUdVERdYERdYERIdYATdIE",
       "dYUdYAdIAaCOMBINING OLD PERMIC LETTER ANeDOIeZATAeNENOEeSII"]⟩,
    ⟨0x10380,
      ["aUGARITIC LETTER ALPAcBETAcGAMLAcKHAcDELTAcHOcWOcZETAcHOTAcTETcYODcKAFcSHINcLAMDAcMEM",
       "cDHALcNUNcZUcSAMKAcAINcPUcSADEcQOPAcRASHAcTHANNAcGHAINcTOcIcUcSSU"]⟩,
    ⟨0x1039F,
      ["aUGARITIC WORD DIVIDERaOLD PERSIAN SIGN AdIdUdKAdKUdGAdGUdXAdCAdJAdJIdTAdTUdDAdDIdDU",
       "dTHAdPAdBAdFAdNAdNUdMAdMIdMUdYAdVAdVIdRAdRUdLAdSAdZAdSHAdSSAdHA"]⟩,
    ⟨0x103C8,
      ["aOLD PERSIAN SIGN AURAMAZDAAdAURAMAZDAA-2dAURAMAZDAAHAdXSHAAYATHIYAdDAHYAAUSH",
       "dDAHYAAUSH-2dBAGAdBUUMISHcWORD DIVIDERcNUMBER ONEdTWOdTENdTWENTYdHUNDRED"]⟩,
    ⟨0x10400,
      ["aDESERET CAPITAL LETTER LONG IeEeAeAHeOeOOdSHORT IeEeAeAHeOeOOdAYdOWdWUdYEEdHdPEEdBEE",
       "dTEEdDEEdCHEEdJEEdKAYdGAYdEFdVEEdETHdTHEEdESdZEEdESHdZHEEdERdELdEMdENdENGdOIdEW",
       "bSMALL LETTER LONG IeEeAeAHeOeOOdSHORT IeEeAeAHeOeOOdAYdOWdWUdYEEdHdPEEdBEEdTEEdDEE",
       "dCHEEdJEEdKAYdGAYdEFdVEEdETHdTHEEdESdZEEdESHdZHEEdERdELdEMdENdENGdOIdEW",
       "aSHAVIAN LETTER PEEPcTOTcKICKcFEEcTHIGHcSOcSUREcCHURCHcYEAcHUNGcBIBcDEADcGAGcVOWcTHEY",
       "cZOOcMEASUREcJUDGEcWOEcHA-HAcLOLLcMIMEcIFcEGGcASHcADOcONcWOOLcOUTcAHcROARcNUNcEATcAGE",
       "cICEcUPcOAKcOOZEcOILcAWEcAREcORcAIRcERRcARRAYcEARcIANcYEWaOSMANYA LETTER ALEFcBAcTA",
       "cJAcXAcKHAcDEELcRAcSAcSHIINcDHAcCAYNcGAcFAcQAAFcKAAFcLAANcMIINcNUUNcWAWcHAcYAcAcEcIcO",
       "cUcAAcEEcOO"]⟩,
    ⟨0x104A0, ["aOSMANYA DIGIT ZEROcONEcTWOcTHREEcFOURcFIVEcSIXcSEVENcEIGHTcNINE"]⟩,
    ⟨0x104B0,
      ["aOSAGE CAPITAL LETTER AdAIdAINdAHdBRAdCHAdEHCHAdEdEINdHAdHYAdIdKAdEHKAdKYAdLAdMAdNAdO",
       "dOINdPAdEHPAdSAdSHAdTAdEHTAdTSAdEHTSAdTSHAdDHAdUdWAdKHAdGHAdZAdZHA"]⟩,
    ⟨0x104D8,
      ["aOSAGE SMALL LETTER AdAIdAINdAHdBRAdCHAdEHCHAdEdEINdHAdHYAdIdKAdEHKAdKYAdLAdMAdNAdO",
       "dOINdPAdEHPAdSAdSHAdTAdEHTAdTSAdEHTSAdTSHAdDHAdUdWAdKHAdGHAdZAdZHA"]⟩,
    ⟨0x10500,
      ["aELBASAN LETTER AcBEcCEcCHEcDEcNDEcDHEcEIcEcFEcGEcGJEcHEcIcJEcKEcLEcLLEcMEcNEcNAcNJE",
       "cOcPEcQEcREcRREcSEcSHEcTEcTHEcUcVEcXEcYcZEcZHEcGHEcGHAMMAcKHE"]⟩,
    ⟨0x10530,
      ["aCAUCASIAN ALBANIAN LETTER ALTdBETdGIMdDATdEBdZARLdEYNdZHILdTASdCHAdYOWDdZHAdIRBdSHA",
       "dLANdINYAdXEYNdDYANdCARdJHOXdKARdLYITdHEYTdQAYdAORdCHOYdCHIdCYAYdMAQdQARdNOWCdDZYAY",
       "dSHAKdJAYNdONdTYAYdFAMdDZAYdCHATdPENdGHEYSdRATdSEYKdVEYZdTIWRdSHOYdIWNdCYAWdCAYNdYAYD",
       "dPIWRdKIW"]⟩,
    ⟨0x1056F,
      ["aCAUCASIAN ALBANIAN CITATION MARKaVITHKUQI CAPITAL LETTER AdBBEdBEdCEdCHEdDEdDHEdEIdE",
       "dFEdGA"]⟩,
    ⟨0x1057C, ["aVITHKUQI CAPITAL LETTER HAdHHAdIdIJEdJEdKAdLAdLLAdMEdNEdNJEdOdPEdQAdRE"]⟩,
    ⟨0x1058C, ["aVITHKUQI CAPITAL LETTER SEdSHEdTEdTHEdUdVEdXE"]⟩,
    ⟨0x10594, ["aVITHKUQI CAPITAL LETTER YdZE"]⟩,
    ⟨0x10597, ["aVITHKUQI SMALL LETTER AdBBEdBEdCEdCHEdDEdDHEdEIdEdFEdGA"]⟩,
    ⟨0x105A3, ["aVITHKUQI SMALL LETTER HAdHHAdIdIJEdJEdKAdLAdLLAdMEdNEdNJEdOdPEdQAdRE"]⟩,
    ⟨0x105B3, ["aVITHKUQI SMALL LETTER SEdSHEdTEdTHEdUdVEdXE"]⟩,
    ⟨0x105BB, ["aVITHKUQI SMALL LETTER YdZE"]⟩,
    ⟨0x10600,
      ["aLINEAR A SIGN AB001dAB002dAB003dAB004dAB005dAB006dAB007dAB008dAB009dAB010dAB011",
       "dAB013dAB016dAB017dAB020dAB021dAB021FdAB021MdAB022dAB022FdAB022MdAB023dAB023MdAB024",
       "dAB026dAB027dAB028dA028BdAB029dAB030dAB031dAB034dAB037dAB038dAB039dAB040dAB041dAB044",
       "dAB045dAB046dAB047dAB048dAB049dAB050dAB051dAB053dAB054dAB055dAB056dAB057dAB058dAB059",
       "dAB060dAB061dAB065dAB066dAB067dAB069dAB070dAB073dAB074dAB076dAB077dAB078dAB079dAB080",
       "dAB081dAB082dAB085dAB086dAB087dA100-102dAB118dAB120dA120BdAB122dAB123dAB131AdAB131B",
       "dA131CdAB164dAB171dAB180dAB188dAB191dA301dA302dA303dA304dA305dA306dA307dA308dA309A",
       "dA309BdA309CdA310dA311dA312dA313AdA313BdA313CdA314dA315dA316dA317dA318dA319dA320dA321",
       "dA322dA323dA324dA325dA326dA327dA328dA329dA330dA331dA332dA333dA334dA335dA336dA337dA338",
       "dA339dA340dA341dA342dA343dA344dA345dA346dA347dA348dA349dA350dA351dA352dA353dA354dA355",
       "dA356dA357dA358dA359dA360dA361dA362dA363dA364dA365dA366dA367dA368dA369dA370dA371",
       "dA400-VASdA401-VASdA402-VASdA403-VASdA404-VASdA405-VASdA406-VASdA407-VASdA408-VAS",
       "dA409-VASdA410-VASdA411-VASdA412-VASdA413-VASdA414-VASdA415-VASdA416-VASdA417-VAS",
       "dA418-VASdA501dA502dA503dA504dA505dA506dA508dA509dA510dA511dA512dA513dA515dA516dA520",
       "dA521dA523dA524dA525dA526dA527dA528dA529dA530dA531dA532dA534dA535dA536dA537dA538dA539",
       "dA540dA541dA542dA545dA547dA548dA549dA550dA551dA552dA553dA554dA555dA556dA557dA559dA563",
       "dA564dA565dA566dA568dA569dA570dA571dA572dA573dA574dA575dA576dA577dA578dA579dA580dA581",
       "dA582dA583dA584dA585dA586dA587dA588dA589dA591dA592dA594dA595dA596dA598dA600dA601dA602",
       "dA603dA604dA606dA608dA609dA610dA611dA612dA613dA614dA615dA616dA617dA618dA619dA620dA621",
       "dA622dA623dA624dA626dA627dA628dA629dA634dA637dA638dA640dA642dA643dA644dA645dA646dA648",
       "dA649dA651dA652dA653dA654dA655dA656dA657dA658dA659dA660dA661dA662dA663dA664"]⟩,
    ⟨0x10740,
      ["aLINEAR A SIGN A701 AdA702 BdA703 DdA704 EdA705 FdA706 HdA707 JdA708 KdA709 L",
       "dA709-2 L2e3 L3e4 L4e6 L6dA710 WdA711 XdA712 YdA713 OMEGAdA714 ABBdA715 BBdA717 DD",
       "dA726 EYYYdA732 JE"]⟩,
    ⟨0x10760, ["aLINEAR A SIGN A800dA801dA802dA803dA804dA805dA806dA807"]⟩,
    ⟨0x10780,
      ["aMODIFIER LETTER SMALL CAPITAL AAcSUPERSCRIPT TRIANGULAR COLONdHALF TRIANGULAR COLON",
       "cSMALL AEdCAPITAL BdB WITH HOOK"]⟩,
    ⟨0x10787,
      ["aMODIFIER LETTER SMALL DZ DIGRAPHeDIGRAPH WITH RETROFLEX HOOKgCURLdDEZH DIGRAPH",
       "dD WITH TAILfHOOKfHOOK AND TAILdREVERSED EdCLOSED REVERSED OPEN EdFENG DIGRAPH",
       "dRAMS HORNdCAPITAL GdG WITH HOOKdCAPITAL G WITH HOOKdH WITH STROKEdCAPITAL H",
       "dHENG WITH HOOKdDOTLESS J WITH STROKE AND HOOKdLS DIGRAPHdLZ DIGRAPHdL WITH BELT",
       "dCAPITAL L WITH BELTdL WITH RETROFLEX HOOK AND BELTdLEZHdLEZH WITH RETROFLEX HOOK",
       "dTURNED YeY WITH BELTdO WITH STROKEdCAPITAL OEdCLOSED OMEGAdQdTURNED R WITH LONG LEG",
       "hLEG AND RETROFLEX HOOKdR WITH TAILfFISHHOOKdCAPITAL RdTC DIGRAPH WITH CURL",
       "dTS DIGRAPHeDIGRAPH WITH RETROFLEX HOOKdTESH DIGRAPHdT WITH RETROFLEX HOOK",
       "dV WITH RIGHT HOOK"]⟩,
    ⟨0x107B2,
      ["aMODIFIER LETTER SMALL CAPITAL YcGLOTTAL STOP WITH STROKE",
       "cREVERSED GLOTTAL STOP WITH STROKEcBILABIAL CLICKcDENTAL CLICKcLATERAL CLICK",
       "cALVEOLAR CLICKcRETROFLEX CLICK WITH RETROFLEX HOOKcSMALL S WITH CURL"]⟩,
    ⟨0x10800, ["aCYPRIOT SYLLABLE AcEcIcOcUcJA"]⟩,
    ⟨0x10808, ["aCYPRIOT SYLLABLE JO"]⟩,
    ⟨0x1080A,
      ["aCYPRIOT SYLLABLE KAcKEcKIcKOcKUcLAcLEcLIcLOcLUcMAcMEcMIcMOcMUcNAcNEcNIcNOcNUcPAcPE",
       "cPIcPOcPUcRAcREcRIcROcRUcSAcSEcSIcSOcSUcTAcTEcTIcTOcTUcWAcWEcWIcWO"]⟩,
    ⟨0x10837, ["aCYPRIOT SYLLABLE XAcXE"]⟩,
    ⟨0x1083C, ["aCYPRIOT SYLLABLE ZA"]⟩,
    ⟨0x1083F,
      ["aCYPRIOT SYLLABLE ZOaIMPERIAL ARAMAIC LETTER ALEPHdBETHdGIMELdDALETHdHEdWAWdZAYIN",
       "dHETHdTETHdYODHdKAPHdLAMEDHdMEMdNUNdSAMEKHdAYINdPEdSADHEdQOPHdRESHdSHINdTAW"]⟩,
    ⟨0x10857,
      ["aIMPERIAL ARAMAIC SECTION SIGNcNUMBER ONEdTWOdTHREEdTENdTWENTYdONE HUNDREDeTHOUSAND",
       "dTEN THOUSANDaPALMYRENE LETTER ALEPHcBETHcGIMELcDALETHcHEcWAWcZAYINcHETHcTETHcYODH",
       "cKAPHcLAMEDHcMEMcFINAL NUNcNUNcSAMEKHcAYINcPEcSADHEcQOPHcRESHcSHINcTAW",
       "bLEFT-POINTING FLEURONbRIGHT-POINTING FLEURONbNUMBER ONEcTWOcTHREEcFOURcFIVEcTEN",
       "cTWENTYaNABATAEAN LETTER FINAL ALEPHcALEPHcFINAL BETHcBETHcGIMELcDALETHcFINAL HEcHE",
       "cWAWcZAYINcHETHcTETHcFINAL YODHcYODHcFINAL KAPHcKAPHcFINAL LAMEDHcLAMEDHcFINAL MEM",
       "cMEMcFINAL NUNcNUNcSAMEKHcAYINcPEcSADHEcQOPHcRESHcFINAL SHINcSHINcTAW"]⟩,
    ⟨0x108A7,
      ["aNABATAEAN NUMBER ONEcTWOcTHREEcFOURbCRUCIFORM NUMBER FOURbNUMBER FIVEcTENcTWENTY",
       "cONE HUNDRED"]⟩,
    ⟨0x108E0,
      ["aHATRAN LETTER ALEPHcBETHcGIMELcDALETH-RESHcHEcWAWcZAYNcHETHcTETHcYODHcKAPHcLAMEDH",
       "cMEMcNUNcSAMEKHcAYNcPEcSADHEcQOPH"]⟩,
    ⟨0x108F4, ["aHATRAN LETTER SHINcTAW"]⟩,
    ⟨0x108FB,
      ["aHATRAN NUMBER ONEcFIVEcTENcTWENTYcONE HUNDREDaPHOENICIAN LETTER ALFcBETcGAMLcDELTcHE",
       "cWAUcZAIcHETcTETcYODcKAFcLAMDcMEMcNUNcSEMKcAINcPEcSADEcQOFcROSHcSHINcTAUbNUMBER ONE",
       "cTENcTWENTYcONE HUNDREDcTWOcTHREE"]⟩,
    ⟨0x1091F,
      ["aPHOENICIAN WORD SEPARATORaLYDIAN LETTER AcBcGcDcEcVcIcYcKcLcMcNcOcRcSScTcUcFcQcScTT",
       "cANcENcLYcNNcC"]⟩,
    ⟨0x1093F, ["aLYDIAN TRIANGULAR MARK"]⟩,
    ⟨0x10980,
      ["aMEROITIC HIEROGLYPHIC LETTER AdEdIdOdYAdWAdBAdBA-2dPAdMAdNAdNA-2dNEdNE-2dRAdRA-2dLA",
       "dKHAdHHAdSAdSA-2dSEdKAdQAdTAdTA-2dTEdTE-2dTOdDAcSYMBOL VIDJdVIDJ-2bCURSIVE LETTER AdE",
       "dIdOdYAdWAdBAdPAdMAdNAdNEdRAdLAdKHAdHHAdSAdARCHAIC SAdSEdKAdQAdTAdTEdTOdDA"]⟩,
    ⟨0x109BC,
      ["aMEROITIC CURSIVE FRACTION ELEVEN TWELFTHSdONE HALFcLOGOGRAM RMTdIMNcNUMBER ONEdTWO",
       "dTHREEdFOURdFIVEdSIXdSEVENdEIGHTdNINEdTENdTWENTYdTHIRTYdFORTYdFIFTYdSIXTYdSEVENTY"]⟩,
    ⟨0x109D2,
      ["aMEROITIC CURSIVE NUMBER ONE HUNDREDdTWO HUNDREDdTHREE HUNDREDdFOUR HUNDRED",
       "dFIVE HUNDREDdSIX HUNDREDdSEVEN HUNDREDdEIGHT HUNDREDdNINE HUNDREDdONE THOUSAND",
       "dTWO THOUSANDdTHREE THOUSANDdFOUR THOUSANDdFIVE THOUSANDdSIX THOUSANDdSEVEN THOUSAND",
       "dEIGHT THOUSANDdNINE THOUSANDdTEN THOUSANDdTWENTY THOUSANDdTHIRTY THOUSAND",
       "dFORTY THOUSANDdFIFTY THOUSANDdSIXTY THOUSANDdSEVENTY THOUSANDdEIGHTY THOUSAND",
       "dNINETY THOUSANDdONE HUNDRED THOUSANDdTWO HUNDRED THOUSANDdTHREE HUNDRED THOUSAND",
       "dFOUR HUNDRED THOUSANDdFIVE HUNDRED THOUSANDdSIX HUNDRED THOUSAND",
       "dSEVEN HUNDRED THOUSANDdEIGHT HUNDRED THOUSANDdNINE HUNDRED THOUSAND",
       "cFRACTION ONE TWELFTHdTWO TWELFTHSdTHREE TWELFTHSdFOUR TWELFTHSdFIVE TWELFTHS",
       "dSIX TWELFTHSdSEVEN TWELFTHSdEIGHT TWELFTHSdNINE TWELFTHSdTEN TWELFTHS",
       "aKHAROSHTHI LETTER AbVOWEL SIGN IdUdVOCALIC R"]⟩,
    ⟨0x10A05, ["aKHAROSHTHI VOWEL SIGN EdO"]⟩,
    ⟨0x10A0C,
      ["aKHAROSHTHI VOWEL LENGTH MARKbSIGN DOUBLE RING BELOWcANUSVARAcVISARGAbLETTER KAcKHA",
       "cGAcGHA"]⟩,
    ⟨0x10A15, ["aKHAROSHTHI LETTER CAcCHAcJA"]⟩,
    ⟨0x10A19,
      ["aKHAROSHTHI LETTER NYAcTTAcTTHAcDDAcDDHAcNNAcTAcTHAcDAcDHAcNAcPAcPHAcBAcBHAcMAcYAcRA",
       "cLAcVAcSHAcSSAcSAcZAcHAcKKAcTTTHAcTTTAcVHA"]⟩,
    ⟨0x10A38, ["aKHAROSHTHI SIGN BAR ABOVEcCAUDAcDOT BELOW"]⟩,
    ⟨0x10A3F,
      ["aKHAROSHTHI VIRAMAbDIGIT ONEcTWOcTHREEcFOURbNUMBER TENcTWENTYcONE HUNDREDdTHOUSAND",
       "bFRACTION ONE HALF"]⟩,
    ⟨0x10A50,
      ["aKHAROSHTHI PUNCTUATION DOTcSMALL CIRCLEcCIRCLEcCRESCENT BARcMANGALAMcLOTUScDANDA",
       "cDOUBLE DANDAcLINES"]⟩,
    ⟨0x10A60,
      ["aOLD SOUTH ARABIAN LETTER HEeLAMEDHeHETHeMEMeQOPHeWAWeSHINeRESHeBETHeTAWeSATeKAPHeNUN",
       "eKHETHeSADHEeSAMEKHeFEeALEFeAYNeDHADHEeGIMELeDALETHeGHAYNeTETHeZAYNeDHALETHeYODHeTHAW",
       "eTHETHdNUMBER ONEeFIFTYdNUMERIC INDICATORbNORTH ARABIAN LETTER HEHeLAMeHAHeMEEMeQAF",
       "eWAWeES-2eREHeBEHeTEHeES-1eKAFeNOONeKHAHeSADeES-3eFEHeALEFeAINeDADeGEEMeDALeGHAINeTAH",
       "eZAINeTHALeYEHeTHEHeZAHdNUMBER ONEeTENeTWENTY"]⟩,
    ⟨0x10AC0,
      ["aMANICHAEAN LETTER ALEPHcBETHcBHETHcGIMELcGHIMELcDALETHcHEcWAWbSIGN UDbLETTER ZAYIN",
       "cZHAYINcJAYINcJHAYINcHETHcTETHcYODHcKAPHcXAPHcKHAPHcLAMEDHcDHAMEDHcTHAMEDHcMEMcNUN",
       "cSAMEKHcAYINcAAYINcPEcFEcSADHEcQOPHcXOPHcQHOPHcRESHcSHINcSSHINcTAW",
       "bABBREVIATION MARK ABOVEdBELOW"]⟩,
    ⟨0x10AEB,
      ["aMANICHAEAN NUMBER ONEcFIVEcTENcTWENTYcONE HUNDREDbPUNCTUATION STARcFLEURON",
       "cDOUBLE DOT WITHIN DOTcDOT WITHIN DOTcDOTcTWO DOTScLINE FILLER"]⟩,
    ⟨0x10B00,
      ["aAVESTAN LETTER AcAAcAOcAAOcANcAANcAEcAEEcEcEEcOcOOcIcIIcUcUUcKEcXEcXYEcXVEcGEcGGE",
       "cGHEcCEcJEcTEcTHEcDEcDHEcTTEcPEcFEcBEcBHEcNGEcNGYEcNGVEcNEcNYEcNNEcMEcHMEcYYEcYEcVE",
       "cREcLEcSEcZEcSHEcZHEcSHYEcSSHEcHE"]⟩,
    ⟨0x10B39,
      ["aAVESTAN ABBREVIATION MARKaTINY TWO DOTS OVER ONE DOT PUNCTUATION",
       "aSMALL TWO DOTS OVER ONE DOT PUNCTUATIONaLARGE TWO DOTS OVER ONE DOT PUNCTUATION",
       "bONE DOT OVER TWO DOTS PUNCTUATIONbTWO RINGS OVER ONE RING PUNCTUATION",
       "bONE RING OVER TWO RINGS PUNCTUATIONaINSCRIPTIONAL PARTHIAN LETTER ALEPHdBETHdGIMEL",
       "dDALETHdHEdWAWdZAYINdHETHdTETHdYODHdKAPHdLAMEDHdMEMdNUNdSAMEKHdAYINdPEdSADHEdQOPH",
       "dRESHdSHINdTAW"]⟩,
    ⟨0x10B58,
      ["aINSCRIPTIONAL PARTHIAN NUMBER ONEdTWOdTHREEdFOURdTENdTWENTYdONE HUNDREDeTHOUSAND",
       "bPAHLAVI LETTER ALEPHdBETHdGIMELdDALETHdHEdWAW-AYIN-RESHdZAYINdHETHdTETHdYODHdKAPH",
       "dLAMEDHdMEM-QOPHdNUNdSAMEKHdPEdSADHEdSHINdTAW"]⟩,
    ⟨0x10B78,
      ["aINSCRIPTIONAL PAHLAVI NUMBER ONEdTWOdTHREEdFOURdTENdTWENTYdONE HUNDREDeTHOUSAND",
       "aPSALTER PAHLAVI LETTER ALEPHdBETHdGIMELdDALETHdHEdWAW-AYIN-RESHdZAYINdHETHdYODHdKAPH",
       "dLAMEDHdMEM-QOPHdNUNdSAMEKHdPEdSADHEdSHINdTAW"]⟩,
    ⟨0x10B99, ["aPSALTER PAHLAVI SECTION MARKcTURNED SECTION MARKcFOUR DOTS WITH CROSSfDOT"]⟩,
    ⟨0x10BA9, ["aPSALTER PAHLAVI NUMBER ONEdTWOdTHREEdFOURdTENdTWENTYdONE HUNDRED"]⟩,
    ⟨0x10C00,
      ["aOLD TURKIC LETTER ORKHON AdYENISEI AeAEdORKHON IdYENISEI IeEdORKHON OeOEdYENISEI OE",
       "dORKHON ABdYENISEI ABdORKHON AEBdYENISEI AEBdORKHON AGdYENISEI AGdORKHON AEG",
       "dYENISEI AEGdORKHON ADdYENISEI ADdORKHON AEDeEZdYENISEI EZdORKHON AYdYENISEI AY",
       "dORKHON AEYdYENISEI AEYdORKHON AEKdYENISEI AEKdORKHON OEKdYENISEI OEKdORKHON AL",
       "dYENISEI ALdORKHON AELeELTeEMeANeAENdYENISEI AENdORKHON ENTdYENISEI ENTdORKHON ENC",
       "dYENISEI ENCdORKHON ENYdYENISEI ENYeANGdORKHON ENGdYENISEI AENGdORKHON EPeOPeICeEC",
       "dYENISEI ECdORKHON AQdYENISEI AQdORKHON IQdYENISEI IQdORKHON OQdYENISEI OQdORKHON AR",
       "dYENISEI ARdORKHON AEReASeAESeASHdYENISEI ASHdORKHON ESHdYENISEI ESHdORKHON AT",
       "dYENISEI ATdORKHON AETdYENISEI AETdORKHON OTeBASH"]⟩,
    ⟨0x10C80,
      ["aOLD HUNGARIAN CAPITAL LETTER AeAAeEBeAMBeECeENCeECSeEDeANDeEeCLOSE EeEEeEFeEGeEGYeEH",
       "eIeIIeEJeEKeAKeUNKeELeELYeEMeENeENYeOeOOeNIKOLSBURG OEeRUDIMENTA OEeOEEeEPeEMPeER",
       "eSHORT EReESeESZeETeENTeETYeECHeUeUUeNIKOLSBURG UEeRUDIMENTA UEeEVeEZeEZS",
       "eENT-SHAPED SIGNeUS"]⟩,
    ⟨0x10CC0,
      ["aOLD HUNGARIAN SMALL LETTER AeAAeEBeAMBeECeENCeECSeEDeANDeEeCLOSE EeEEeEFeEGeEGYeEHeI",
       "eIIeEJeEKeAKeUNKeELeELYeEMeENeENYeOeOOeNIKOLSBURG OEeRUDIMENTA OEeOEEeEPeEMPeER",
       "eSHORT EReESeESZeETeENTeETYeECHeUeUUeNIKOLSBURG UEeRUDIMENTA UEeEVeEZeEZS",
       "eENT-SHAPED SIGNeUS"]⟩,
    ⟨0x10CFA,
      ["aOLD HUNGARIAN NUMBER ONEdFIVEdTENdFIFTYdONE HUNDREDeTHOUSAND",
       "aHANIFI ROHINGYA LETTER AdBAdPAdTAdTTAdJAdCAdHAdKHAdFAdDAdDDAdRAdRRAdZAdSAdSHAdKAdGA",
       "dLAdMAdNAdWAdKINNA WAdYAdKINNA YAdNGAdNYAdVAcVOWEL AdIdUdEdOcMARK SAKINdNA KHONNA",
       "cSIGN HARBAHAYdTAHALAdTANAdTASSI"]⟩,
    ⟨0x10D30, ["aHANIFI ROHINGYA DIGIT ZEROdONEdTWOdTHREEdFOURdFIVEdSIXdSEVENdEIGHTdNINE"]⟩,
    ⟨0x10E60,
      ["aRUMI DIGIT ONEcTWOcTHREEcFOURcFIVEcSIXcSEVENcEIGHTcNINEbNUMBER TENcTWENTYcTHIRTY",
       "cFORTYcFIFTYcSIXTYcSEVENTYcEIGHTYcNINETYcONE HUNDREDcTWO HUNDREDcTHREE HUNDRED",
       "cFOUR HUNDREDcFIVE HUNDREDcSIX HUNDREDcSEVEN HUNDREDcEIGHT HUNDREDcNINE HUNDRED",
       "bFRACTION ONE HALFdQUARTERdTHIRDcTWO THIRDS"]⟩,
    ⟨0x10E80,
      ["aYEZIDI LETTER ELIFcBEcPEcPHEcTHEcSEcCIMcCHIMcCHHIMcHHAcXAcDALcZALcRAcRHAcZAcJAcSIN",
       "cSHINcSADcDADcTAcZEcEYNcXHEYNcFAcVAcVA ALTERNATE FORMcQAFcKAFcKHAFcGAFcLAMcMIMcNUNcUM",
       "cWAWcOWcEWcHAYcYOTcET"]⟩,
    ⟨0x10EAB, ["aYEZIDI COMBINING HAMZA MARKcMADDA MARKbHYPHENATION MARK"]⟩,
    ⟨0x10EB0, ["aYEZIDI LETTER LAM WITH DOT ABOVEcYOT WITH CIRCUMFLEX ABOVE"]⟩,
    ⟨0x10F00,
      ["aOLD SOGDIAN LETTER ALEPHdFINAL ALEPHdBETHdFINAL BETHdGIMELdHEdFINAL HEdWAWdZAYIN",
       "dHETHdYODHdKAPHdLAMEDHdMEMdNUNdFINAL NUNeNUN WITH VERTICAL TAILdSAMEKHdAYIN",
       "dALTERNATE AYINdPEdSADHEdFINAL SADHEeSADHE WITH VERTICAL TAILdRESH-AYIN-DALETHdSHIN",
       "dTAWdFINAL TAWeTAW WITH VERTICAL TAILcNUMBER ONEdTWOdTHREEdFOURdFIVEdTENdTWENTY",
       "dTHIRTYdONE HUNDREDcFRACTION ONE HALFcLIGATURE AYIN-DALETH"]⟩,
    ⟨0x10F30,
      ["aSOGDIAN LETTER ALEPHcBETHcGIMELcHEcWAWcZAYINcHETHcYODHcKAPHcLAMEDHcMEMcNUNcSAMEKH",
       "cAYINcPEcSADHEcRESH-AYINcSHINcTAWcFETHcLESHbINDEPENDENT SHINbCOMBINING DOT BELOW",
       "cTWO DOTS BELOWcDOT ABOVEcTWO DOTS ABOVEcCURVE ABOVEdBELOWcHOOK ABOVEdBELOW",
       "cLONG HOOK BELOWcRESH BELOWcSTROKE BELOWbNUMBER ONEcTENcTWENTYcONE HUNDRED",
       "bPUNCTUATION TWO VERTICAL BARSeBARS WITH DOTScCIRCLE WITH DOTcTWO CIRCLES WITH DOTS",
       "cHALF CIRCLE WITH DOT"]⟩,
    ⟨0x10F70,
      ["aOLD UYGHUR LETTER ALEPHdBETHdGIMEL-HETHdWAWdZAYINdFINAL HETHdYODHdKAPHdLAMEDHdMEM",
       "dNUNdSAMEKHdPEdSADHEdRESHdSHINdTAWdLESHcCOMBINING DOT ABOVEeBELOWdTWO DOTS ABOVE",
       "fBELOWcPUNCTUATION BARdTWO BARSeDOTSdFOUR DOTS"]⟩,
    ⟨0x10FB0,
      ["aCHORASMIAN LETTER ALEPHcSMALL ALEPHcBETHcGIMELcDALETHcHEcWAWcCURLED WAWcZAYINcHETH",
       "cYODHcKAPHcLAMEDHcMEMcNUNcSAMEKHcAYINcPEcRESHcSHINcTAWbNUMBER ONEcTWOcTHREEcFOURcTEN",
       "cTWENTYcONE HUNDRED"]⟩,
    ⟨0x10FE0,
      ["aELYMAIC LETTER ALEPHcBETHcGIMELcDALETHcHEcWAWcZAYINcHETHcTETHcYODHcKAPHcLAMEDHcMEM",
       "cNUNcSAMEKHcAYINcPEcSADHEcQOPHcRESHcSHINcTAWbLIGATURE ZAYIN-YODH"]⟩,
    ⟨0x11000,
      ["aBRAHMI SIGN CANDRABINDUcANUSVARAcVISARGAcJIHVAMULIYAcUPADHMANIYAbLETTER AcAAcIcIIcU",
       "cUUcVOCALIC RdRRdLdLLcEcAIcOcAUcKAcKHAcGAcGHAcNGAcCAcCHAcJAcJHAcNYAcTTAcTTHAcDDAcDDHA",
       "cNNAcTAcTHAcDAcDHAcNAcPAcPHAcBAcBHAcMAcYAcRAcLAcVAcSHAcSSAcSAcHAcLLAcOLD TAMIL LLLA",
       "eRRAeNNNAbVOWEL SIGN AAdBHATTIPROLU AAdIdIIdUdUUdVOCALIC ReRReLeLLdEdAIdOdAUbVIRAMA",
       "bDANDAbDOUBLE DANDAbPUNCTUATION DOTcDOUBLE DOTcLINEcCRESCENT BARcLOTUS"]⟩,
    ⟨0x11052,
      ["aBRAHMI NUMBER ONEcTWOcTHREEcFOURcFIVEcSIXcSEVENcEIGHTcNINEcTENcTWENTYcTHIRTYcFORTY",
       "cFIFTYcSIXTYcSEVENTYcEIGHTYcNINETYcONE HUNDREDdTHOUSANDbDIGIT ZEROcONEcTWOcTHREEcFOUR",
       "cFIVEcSIXcSEVENcEIGHTcNINEbSIGN OLD TAMIL VIRAMAbLETTER OLD TAMIL SHORT EfO",
       "bVOWEL SIGN OLD TAMIL SHORT EgObLETTER OLD TAMIL LLA"]⟩,
    ⟨0x1107F,
      ["aBRAHMI NUMBER JOINERaKAITHI SIGN CANDRABINDUcANUSVARAcVISARGAbLETTER AcAAcIcIIcUcUU",
       "cEcAIcOcAUcKAcKHAcGAcGHAcNGAcCAcCHAcJAcJHAcNYAcTTAcTTHAcDDAcDDDHAcDDHAcRHAcNNAcTAcTHA",
       "cDAcDHAcNAcPAcPHAcBAcBHAcMAcYAcRAcLAcVAcSHAcSSAcSAcHAbVOWEL SIGN AAdIdIIdUdUUdEdAIdO",
       "dAUbSIGN VIRAMAcNUKTAbABBREVIATION SIGNbENUMERATION SIGNbNUMBER SIGNbSECTION MARK",
       "bDOUBLE SECTION MARKbDANDAbDOUBLE DANDAbVOWEL SIGN VOCALIC R"]⟩,
    ⟨0x110CD, ["aKAITHI NUMBER SIGN ABOVE"]⟩,
    ⟨0x110D0,
      ["aSORA SOMPENG LETTER SAHdTAHdBAHdCAHdDAHdGAHdMAHdNGAHdLAHdNAHdVAHdPAHdYAHdRAHdHAHdKAH",
       "dJAHdNYAHdAHdEEHdIHdUHdOHdEHdMAE"]⟩,
    ⟨0x110F0, ["aSORA SOMPENG DIGIT ZEROdONEdTWOdTHREEdFOURdFIVEdSIXdSEVENdEIGHTdNINE"]⟩,
    ⟨0x11100,
      ["aCHAKMA SIGN CANDRABINDUcANUSVARAcVISARGAbLETTER AAcIcUcEcKAAcKHAAcGAAcGHAAcNGAAcCAA",
       "cCHAAcJAAcJHAAcNYAAcTTAAcTTHAAcDDAAcDDHAAcNNAAcTAAcTHAAcDAAcDHAAcNAAcPAAcPHAAcBAA",
       "cBHAAcMAAcYYAAcYAAcRAAcLAAcWAAcSAAcHAAbVOWEL SIGN AdIdIIdUdUUdEdAIdOdAUdOIbO MARK",
       "bAU MARKbVIRAMAbMAAYYAA"]⟩,
    ⟨0x11136,
      ["aCHAKMA DIGIT ZEROcONEcTWOcTHREEcFOURcFIVEcSIXcSEVENcEIGHTcNINEbSECTION MARKbDANDA",
       "bDOUBLE DANDAbQUESTION MARKbLETTER LHAAbVOWEL SIGN AAdEIbLETTER VAA"]⟩,
    ⟨0x11150,
      ["aMAHAJANI LETTER AcIcUcEcOcKAcKHAcGAcGHAcCAcCHAcJAcJHAcNYAcTTAcTTHAcDDAcDDHAcNNAcTA",
       "cTHAcDAcDHAcNAcPAcPHAcBAcBHAcMAcRAcLAcVAcSAcHAcRRAbSIGN NUKTAbABBREVIATION SIGN",
       "bSECTION MARKbLIGATURE SHRI"]⟩,
    ⟨0x11180,
      ["aSHARADA SIGN CANDRABINDUcANUSVARAcVISARGAbLETTER AcAAcIcIIcUcUUcVOCALIC RdRRdLdLLcE",
       "cAIcOcAUcKAcKHAcGAcGHAcNGAcCAcCHAcJAcJHAcNYAcTTAcTTHAcDDAcDDHAcNNAcTAcTHAcDAcDHAcNA",
       "cPAcPHAcBAcBHAcMAcYAcRAcLAcLLAcVAcSHAcSSAcSAcHAbVOWEL SIGN AAdIdIIdUdUUdVOCALIC ReRR",
       "eLeLLdEdAIdOdAUbSIGN VIRAMAcAVAGRAHAcJIHVAMULIYAcUPADHMANIYAbOMbDANDAbDOUBLE DANDA",
       "bABBREVIATION SIGNbSEPARATORbSANDHI MARKbSIGN NUKTAbVOWEL MODIFIER MARK",
       "bEXTRA SHORT VOWEL MARKbSUTRA MARKbVOWEL SIGN PRISHTHAMATRA E",
       "bSIGN INVERTED CANDRABINDUbDIGIT ZEROcONEcTWOcTHREEcFOURcFIVEcSIXcSEVENcEIGHTcNINE",
       "bEKAMbSIGN SIDDHAMbHEADSTROKEbCONTINUATION SIGNbSECTION MARK-1d2"]⟩,
    ⟨0x111E1,
      ["aSINHALA ARCHAIC DIGIT ONEdTWOdTHREEdFOURdFIVEdSIXdSEVENdEIGHTdNINEcNUMBER TENdTWENTY",
       "dTHIRTYdFORTYdFIFTYdSIXTYdSEVENTYdEIGHTYdNINETYdONE HUNDREDeTHOUSAND"]⟩,
    ⟨0x11200, ["aKHOJKI LETTER AcAAcIcUcEcAIcOcAUcKAcKHAcGAcGGAcGHAcNGAcCAcCHAcJAcJJA"]⟩,
    ⟨0x11213,
      ["aKHOJKI LETTER NYAcTTAcTTHAcDDAcDDHAcNNAcTAcTHAcDAcDDDAcDHAcNAcPAcPHAcBAcBBAcBHAcMA",
       "cYAcRAcLAcVAcSAcHAcLLAbVOWEL SIGN AAdIdIIdUdEdAIdOdAUbSIGN ANUSVARAcVIRAMAcNUKTA",
       "cSHADDAbDANDAbDOUBLE DANDAbWORD SEPARATORbSECTION MARKbDOUBLE SECTION MARK",
       "bABBREVIATION SIGNbSIGN SUKUN"]⟩,
    ⟨0x11280, ["aMULTANI LETTER AcIcUcEcKAcKHAcGA"]⟩,
    ⟨0x11288, ["aMULTANI LETTER GHA"]⟩,
    ⟨0x1128A, ["aMULTANI LETTER CAcCHAcJAcJJA"]⟩,
    ⟨0x1128F, ["aMULTANI LETTER NYAcTTAcTTHAcDDAcDDDAcDDHAcNNAcTAcTHAcDAcDHAcNAcPAcPHAcBA"]⟩,
    ⟨0x1129F, ["aMULTANI LETTER BHAcMAcYAcRAcLAcVAcSAcHAcRRAcRHAbSECTION MARK"]⟩,
    ⟨0x112B0,
      ["aKHUDAWADI LETTER AcAAcIcIIcUcUUcEcAIcOcAUcKAcKHAcGAcGGAcGHAcNGAcCAcCHAcJAcJJAcJHA",
       "cNYAcTTAcTTHAcDDAcDDDAcRRAcDDHAcNNAcTAcTHAcDAcDHAcNAcPAcPHAcBAcBBAcBHAcMAcYAcRAcLAcVA",
       "cSHAcSAcHAbSIGN ANUSVARAbVOWEL SIGN AAdIdIIdUdUUdEdAIdOdAUbSIGN NUKTAcVIRAMA"]⟩,
    ⟨0x112F0, ["aKHUDAWADI DIGIT ZEROcONEcTWOcTHREEcFOURcFIVEcSIXcSEVENcEIGHTcNINE"]⟩,
    ⟨0x11300, ["aGRANTHA SIGN COMBINING ANUSVARA ABOVEcCANDRABINDUcANUSVARAcVISARGA"]⟩,
    ⟨0x11305, ["aGRANTHA LETTER AcAAcIcIIcUcUUcVOCALIC RdL"]⟩,
    ⟨0x1130F, ["aGRANTHA LETTER EEcAI"]⟩,
    ⟨0x11313,
      ["aGRANTHA LETTER OOcAUcKAcKHAcGAcGHAcNGAcCAcCHAcJAcJHAcNYAcTTAcTTHAcDDAcDDHAcNNAcTA",
       "cTHAcDAcDHAcNA"]⟩,
    ⟨0x1132A, ["aGRANTHA LETTER PAcPHAcBAcBHAcMAcYAcRA"]⟩,
    ⟨0x11332, ["aGRANTHA LETTER LAcLLA"]⟩,
    ⟨0x11335, ["aGRANTHA LETTER VAcSHAcSSAcSAcHA"]⟩,
    ⟨0x1133B,
      ["aCOMBINING BINDU BELOWaGRANTHA SIGN NUKTAcAVAGRAHAbVOWEL SIGN AAdIdIIdUdUUdVOCALIC R",
       "eRR"]⟩,
    ⟨0x11347, ["aGRANTHA VOWEL SIGN EEdAI"]⟩,
    ⟨0x1134B, ["aGRANTHA VOWEL SIGN OOdAUbSIGN VIRAMA"]⟩,
    ⟨0x11350, ["aGRANTHA OM"]⟩,
    ⟨0x11357, ["aGRANTHA AU LENGTH MARK"]⟩,
    ⟨0x1135D,
      ["aGRANTHA SIGN PLUTAbLETTER VEDIC ANUSVARAdDOUBLE ANUSVARAcVOCALIC RRdLL",
       "bVOWEL SIGN VOCALIC LeLL"]⟩,
    ⟨0x11366, ["aCOMBINING GRANTHA DIGIT ZEROdONEdTWOdTHREEdFOURdFIVEdSIX"]⟩,
    ⟨0x11370, ["aCOMBINING GRANTHA LETTER AdKAdNAdVIdPA"]⟩,
    ⟨0x11400,
      ["aNEWA LETTER AcAAcIcIIcUcUUcVOCALIC RdRRdLdLLcEcAIcOcAUcKAcKHAcGAcGHAcNGAcNGHAcCAcCHA",
       "cJAcJHAcNYAcNYHAcTTAcTTHAcDDAcDDHAcNNAcTAcTHAcDAcDHAcNAcNHAcPAcPHAcBAcBHAcMAcMHAcYA",
       "cRAcRHAcLAcLHAcWAcSHAcSSAcSAcHAbVOWEL SIGN AAdIdIIdUdUUdVOCALIC ReRReLeLLdEdAIdOdAU",
       "bSIGN VIRAMAcCANDRABINDUcANUSVARAcVISARGAcNUKTAcAVAGRAHAcFINAL ANUSVARAbOMbSIDDHI",
       "bDANDAbDOUBLE DANDAbCOMMAbGAP FILLERbABBREVIATION SIGNbDIGIT ZEROcONEcTWOcTHREEcFOUR",
       "cFIVEcSIXcSEVENcEIGHTcNINEbDOUBLE COMMAbPLACEHOLDER MARK"]⟩,
    ⟨0x1145D,
      ["aNEWA INSERTION SIGNbSANDHI MARKbLETTER VEDIC ANUSVARAbSIGN JIHVAMULIYAcUPADHMANIYA"]⟩,
    ⟨0x11480,
      ["aTIRHUTA ANJIbLETTER AcAAcIcIIcUcUUcVOCALIC RdRRdLdLLcEcAIcOcAUcKAcKHAcGAcGHAcNGAcCA",
       "cCHAcJAcJHAcNYAcTTAcTTHAcDDAcDDHAcNNAcTAcTHAcDAcDHAcNAcPAcPHAcBAcBHAcMAcYAcRAcLAcVA",
       "cSHAcSSAcSAcHAbVOWEL SIGN AAdIdIIdUdUUdVOCALIC ReRReLeLLdEdSHORT EdAIdOdSHORT OdAU",
       "bSIGN CANDRABINDUcANUSVARAcVISARGAcVIRAMAcNUKTAcAVAGRAHAbGVANGbABBREVIATION SIGNbOM"]⟩,
    ⟨0x114D0, ["aTIRHUTA DIGIT ZEROcONEcTWOcTHREEcFOURcFIVEcSIXcSEVENcEIGHTcNINE"]⟩,
    ⟨0x11580,
      ["aSIDDHAM LETTER AcAAcIcIIcUcUUcVOCALIC RdRRdLdLLcEcAIcOcAUcKAcKHAcGAcGHAcNGAcCAcCHA",
       "cJAcJHAcNYAcTTAcTTHAcDDAcDDHAcNNAcTAcTHAcDAcDHAcNAcPAcPHAcBAcBHAcMAcYAcRAcLAcVAcSHA",
       "cSSAcSAcHAbVOWEL SIGN AAdIdIIdUdUUdVOCALIC ReRR"]⟩,
    ⟨0x115B8,
      ["aSIDDHAM VOWEL SIGN EdAIdOdAUbSIGN CANDRABINDUcANUSVARAcVISARGAcVIRAMAcNUKTAcSIDDHAM",
       "bDANDAbDOUBLE DANDAbSEPARATOR DOTcBARbREPETITION MARK-1d2d3bEND OF TEXT MARK",
       "bSECTION MARK WITH TRIDENT AND U-SHAPED ORNAMENTSgDOTTED CRESCENTS",
       "eRAYS AND DOTTED CRESCENTShDOUBLE CRESCENTShTRIPLE CRESCENTSdDOUBLE RING",
       "eRING WITH RAYSdWITH DOUBLE CRESCENTSeTRIPLE CRESCENTSeQUADRUPLE CRESCENTS",
       "eSEPTUPLE CRESCENTSeCIRCLES AND RAYSgTWO ENCLOSURESgFOUR ENCLOSURES",
       "bLETTER THREE-CIRCLE ALTERNATE IcTWO-CIRCLE ALTERNATE IfIIcALTERNATE U",
       "bVOWEL SIGN ALTERNATE UeUU"]⟩,
    ⟨0x11600,
      ["aMODI LETTER AcAAcIcIIcUcUUcVOCALIC RdRRdLdLLcEcAIcOcAUcKAcKHAcGAcGHAcNGAcCAcCHAcJA",
       "cJHAcNYAcTTAcTTHAcDDAcDDHAcNNAcTAcTHAcDAcDHAcNAcPAcPHAcBAcBHAcMAcYAcRAcLAcVAcSHAcSSA",
       "cSAcHAcLLAbVOWEL SIGN AAdIdIIdUdUUdVOCALIC ReRReLeLLdEdAIdOdAUbSIGN ANUSVARAcVISARGA",
       "cVIRAMAcARDHACANDRAbDANDAbDOUBLE DANDAbABBREVIATION SIGNbSIGN HUVA"]⟩,
    ⟨0x11650, ["aMODI DIGIT ZEROcONEcTWOcTHREEcFOURcFIVEcSIXcSEVENcEIGHTcNINE"]⟩,
    ⟨0x11660,
      ["aMONGOLIAN BIRGA WITH ORNAMENTbROTATED BIRGAbDOUBLE BIRGA WITH ORNAMENT",
       "bTRIPLE BIRGA WITH ORNAMENTbBIRGA WITH DOUBLE ORNAMENTbROTATED BIRGA WITH ORNAMENT",
       "eDOUBLE ORNAMENTbINVERTED BIRGAcBIRGA WITH DOUBLE ORNAMENTbSWIRL BIRGA",
       "cBIRGA WITH ORNAMENTeDOUBLE ORNAMENTbTURNED SWIRL BIRGA WITH DOUBLE ORNAMENT"]⟩,
    ⟨0x11680,
      ["aTAKRI LETTER AcAAcIcIIcUcUUcEcAIcOcAUcKAcKHAcGAcGHAcNGAcCAcCHAcJAcJHAcNYAcTTAcTTHA",
       "cDDAcDDHAcNNAcTAcTHAcDAcDHAcNAcPAcPHAcBAcBHAcMAcYAcRAcLAcVAcSHAcSAcHAcRRA",
       "bSIGN ANUSVARAcVISARGAbVOWEL SIGN AAdIdIIdUdUUdEdAIdOdAUbSIGN VIRAMAcNUKTA",
       "bLETTER ARCHAIC KHAbABBREVIATION SIGN"]⟩,
    ⟨0x116C0, ["aTAKRI DIGIT ZEROcONEcTWOcTHREEcFOURcFIVEcSIXcSEVENcEIGHTcNINE"]⟩,
    ⟨0x11700,
      ["aAHOM LETTER KAcKHAcNGAcNAcTAcALTERNATE TAcPAcPHAcBAcMAcJAcCHAcTHAcRAcLAcSAcNYAcHAcA",
       "cDAcDHAcGAcALTERNATE GAcGHAcBHAcJHAcALTERNATE BA"]⟩,
    ⟨0x1171D,
      ["aAHOM CONSONANT SIGN MEDIAL LAeRAeLIGATING RAbVOWEL SIGN AdAAdIdIIdUdUUdEdAWdOdAIdAM",
       "bSIGN KILLER"]⟩,
    ⟨0x11730,
      ["aAHOM DIGIT ZEROcONEcTWOcTHREEcFOURcFIVEcSIXcSEVENcEIGHTcNINEbNUMBER TENcTWENTY",
       "bSIGN SMALL SECTIONcSECTIONcRULAIbSYMBOL VIbLETTER CAcTTAcTTHAcDDAcDDHAcNNAcLLA"]⟩,
    ⟨0x11800,
      ["aDOGRA LETTER AcAAcIcIIcUcUUcEcAIcOcAUcKAcKHAcGAcGHAcNGAcCAcCHAcJAcJHAcNYAcTTAcTTHA",
       "cDDAcDDHAcNNAcTAcTHAcDAcDHAcNAcPAcPHAcBAcBHAcMAcYAcRAcLAcVAcSHAcSSAcSAcHAcRRA",
       "bVOWEL SIGN AAdIdIIdUdUUdVOCALIC ReRRdEdAIdOdAUbSIGN ANUSVARAcVISARGAcVIRAMAcNUKTA",
       "bABBREVIATION SIGN"]⟩,
    ⟨0x118A0,
      ["aWARANG CITI CAPITAL LETTER NGAAeAeWIeYUeYAeYOeIIeUUeEeOeANGeGAeKOeENYeYUJeUCeENNeODD",
       "eTTEeNUNGeDAeATeAMeBUePUeHIYOeHOLOeHORReHAReSSUUeSIIeVIYOcSMALL LETTER NGAAeAeWIeYU",
       "eYAeYOeIIeUUeEeOeANGeGAeKOeENYeYUJeUCeENNeODDeTTEeNUNGeDAeATeAMeBUePUeHIYOeHOLOeHORR",
       "eHAReSSUUeSIIeVIYOcDIGIT ZEROdONEdTWOdTHREEdFOURdFIVEdSIXdSEVENdEIGHTdNINEcNUMBER TEN",
       "dTWENTYdTHIRTYdFORTYdFIFTYdSIXTYdSEVENTYdEIGHTYdNINETY"]⟩,
    ⟨0x118FF, ["aWARANG CITI OMaDIVES AKURU LETTER AdAAdIdIIdUdUUdE"]⟩,
    ⟨0x11909, ["aDIVES AKURU LETTER O"]⟩,
    ⟨0x1190C, ["aDIVES AKURU LETTER KAdKHAdGAdGHAdNGAdCAdCHAdJA"]⟩,
    ⟨0x11915, ["aDIVES AKURU LETTER NYAdTTA"]⟩,
    ⟨0x11918,
      ["aDIVES AKURU LETTER DDAdDDHAdNNAdTAdTHAdDAdDHAdNAdPAdPHAdBAdBHAdMAdYAdYYAdRAdLAdVA",
       "dSHAdSSAdSAdHAdLLAdZAcVOWEL SIGN AAeIeIIeUeUUeE"]⟩,
    ⟨0x11937, ["aDIVES AKURU VOWEL SIGN AIeO"]⟩,
    ⟨0x1193B,
      ["aDIVES AKURU SIGN ANUSVARAdCANDRABINDUdHALANTAcVIRAMAcPREFIXED NASAL SIGNcMEDIAL YA",
       "cINITIAL RAcMEDIAL RAcSIGN NUKTAcDOUBLE DANDAcGAP FILLERcEND OF TEXT MARK"]⟩,
    ⟨0x11950, ["aDIVES AKURU DIGIT ZEROdONEdTWOdTHREEdFOURdFIVEdSIXdSEVENdEIGHTdNINE"]⟩,
    ⟨0x119A0, ["aNANDINAGARI LETTER AcAAcIcIIcUcUUcVOCALIC RdRR"]⟩,
    ⟨0x119AA,
      ["aNANDINAGARI LETTER EcAIcOcAUcKAcKHAcGAcGHAcNGAcCAcCHAcJAcJHAcNYAcTTAcTTHAcDDAcDDHA",
       "cNNAcTAcTHAcDAcDHAcNAcPAcPHAcBAcBHAcMAcYAcRAcLAcVAcSHAcSSAcSAcHAcLLAcRRA",
       "bVOWEL SIGN AAdIdIIdUdUUdVOCALIC ReRR"]⟩,
    ⟨0x119DA,
      ["aNANDINAGARI VOWEL SIGN EdAIdOdAUbSIGN ANUSVARAcVISARGAcVIRAMAcAVAGRAHAcSIDDHAM",
       "bHEADSTROKEbVOWEL SIGN PRISHTHAMATRA E"]⟩,
    ⟨0x11A00,
      ["aZANABAZAR SQUARE LETTER AcVOWEL SIGN IeUEeUeEeOEeOeAIeAUeREVERSED IdLENGTH MARK",
       "cLETTER KAdKHAdGAdGHAdNGAdCAdCHAdJAdNYAdTTAdTTHAdDDAdDDHAdNNAdTAdTHAdDAdDHAdNAdPAdPHA",
       "dBAdBHAdMAdTSAdTSHAdDZAdDZHAdZHAdZAd-AdYAdRAdLAdVAdSHAdSSAdSAdHAdKSSA",
       "cFINAL CONSONANT MARKcSIGN VIRAMAdCANDRABINDUdCANDRABINDU WITH ORNAMENT",
       "dCANDRA WITH ORNAMENTdANUSVARAdVISARGAcCLUSTER-INITIAL LETTER RAdFINAL LETTER YAfRA",
       "fLAfVAcINITIAL HEAD MARKcCLOSING HEAD MARKcMARK TSHEGdSHADdDOUBLE SHADdLONG TSHEG",
       "cINITIAL DOUBLE-LINED HEAD MARKcCLOSING DOUBLE-LINED HEAD MARKcSUBJOINER"]⟩,
    ⟨0x11A50,
      ["aSOYOMBO LETTER AbVOWEL SIGN IdUEdUdEdOdOEdAIdAUdVOCALIC ReLcLENGTH MARKbLETTER KA",
       "cKHAcGAcGHAcNGAcCAcCHAcJAcJHAcNYAcTTAcTTHAcDDAcDDHAcNNAcTAcTHAcDAcDHAcNAcPAcPHAcBA",
       "cBHAcMAcTSAcTSHAcDZAcZHAcZAc-AcYAcRAcLAcVAcSHAcSSAcSAcHAcKSSAbSIGN JIHVAMULIYA",
       "cUPADHMANIYAbCLUSTER-INITIAL LETTER RAeLAeSHAeSAbFINAL CONSONANT SIGN GeKeNGeDeNeBeM",
       "eReLeSHeSe-AbSIGN ANUSVARAcVISARGAbGEMINATION MARKbSUBJOINERbMARK TSHEGcSHAD",
       "cDOUBLE SHADcPLUTAbHEAD MARK WITH MOON AND SUN AND TRIPLE FLAMEiFLAMEgSUN",
       "bTERMINAL MARK-1d2"]⟩,
    ⟨0x11AB0,
      ["aCANADIAN SYLLABICS NATTILIK HIdHIIdHOdHOOdHAdHAAdSHRIdSHRIIdSHROdSHROOdSHRAdSHRAA",
       "cSPEcSPIcSPOcSPAaPAU CIN HAU LETTER PAeKAeLAeMAeDAeZAeVAeNGAeHAeGAeKHAeSAeBAeCAeTA",
       "eTHAeNAePHAeRAeFAeCHAeAeEeIeOeUeUAeIAeFINAL PfKfTfMfNfLfWfNGfYdRISING TONE LONGeTONE",
       "dSANDHI GLOTTAL STOPdRISING TONE LONG FINALfFINALdSANDHI GLOTTAL STOP FINALeTONE LONG",
       "eTONEeTONE LONG FINALfFINALdMID-LEVEL TONEdGLOTTAL STOP VARIANT",
       "dMID-LEVEL TONE LONG FINALgFINALdLOW-FALLING TONE LONGfTONEdGLOTTAL STOP",
       "dLOW-FALLING TONE LONG FINALgFINALdGLOTTAL STOP FINAL"]⟩,
    ⟨0x11C00, ["aBHAIKSUKI LETTER AcAAcIcIIcUcUUcVOCALIC RdRRdL"]⟩,
    ⟨0x11C0A,
      ["aBHAIKSUKI LETTER EcAIcOcAUcKAcKHAcGAcGHAcNGAcCAcCHAcJAcJHAcNYAcTTAcTTHAcDDAcDDHAcNNA",
       "cTAcTHAcDAcDHAcNAcPAcPHAcBAcBHAcMAcYAcRAcLAcVAcSHAcSSAcSAcHAbVOWEL SIGN AAdIdIIdUdUU",
       "dVOCALIC ReRReL"]⟩,
    ⟨0x11C38,
      ["aBHAIKSUKI VOWEL SIGN EdAIdOdAUbSIGN CANDRABINDUcANUSVARAcVISARGAcVIRAMAcAVAGRAHA",
       "bDANDAbDOUBLE DANDAbWORD SEPARATORbGAP FILLER-1d2"]⟩,
    ⟨0x11C50,
      ["aBHAIKSUKI DIGIT ZEROcONEcTWOcTHREEcFOURcFIVEcSIXcSEVENcEIGHTcNINEbNUMBER ONEcTWO",
       "cTHREEcFOURcFIVEcSIXcSEVENcEIGHTcNINEcTENcTWENTYcTHIRTYcFORTYcFIFTYcSIXTYcSEVENTY",
       "cEIGHTYcNINETYbHUNDREDS UNIT MARK"]⟩,
    ⟨0x11C70,
      ["aMARCHEN HEAD MARKbMARK SHADbLETTER KAcKHAcGAcNGAcCAcCHAcJAcNYAcTAcTHAcDAcNAcPAcPHA",
       "cBAcMAcTSAcTSHAcDZAcWAcZHAcZAc-AcYAcRAcLAcSHAcSAcHAcA"]⟩,
    ⟨0x11C92,
      ["aMARCHEN SUBJOINED LETTER KAdKHAdGAdNGAdCAdCHAdJAdNYAdTAdTHAdDAdNAdPAdPHAdBAdMAdTSA",
       "dTSHAdDZAdWAdZHAdZA"]⟩,
    ⟨0x11CA9,
      ["aMARCHEN SUBJOINED LETTER YAdRAdLAdSHAdSAdHAdAbVOWEL SIGN AAdIdUdEdObSIGN ANUSVARA",
       "cCANDRABINDU"]⟩,
    ⟨0x11D00, ["aMASARAM GONDI LETTER AdAAdIdIIdUdUUdE"]⟩,
    ⟨0x11D08, ["aMASARAM GONDI LETTER AIdO"]⟩,
    ⟨0x11D0B,
      ["aMASARAM GONDI LETTER AUdKAdKHAdGAdGHAdNGAdCAdCHAdJAdJHAdNYAdTTAdTTHAdDDAdDDHAdNNAdTA",
       "dTHAdDAdDHAdNAdPAdPHAdBAdBHAdMAdYAdRAdLAdVAdSHAdSSAdSAdHAdLLAdKSSAdJNYAdTRA",
       "cVOWEL SIGN AAeIeIIeUeUUeVOCALIC R"]⟩,
    ⟨0x11D3A, ["aMASARAM GONDI VOWEL SIGN E"]⟩,
    ⟨0x11D3C, ["aMASARAM GONDI VOWEL SIGN AIeO"]⟩,
    ⟨0x11D3F,
      ["aMASARAM GONDI VOWEL SIGN AUcSIGN ANUSVARAdVISARGAdNUKTAdCANDRAdHALANTAcVIRAMAcREPHA",
       "cRA-KARA"]⟩,
    ⟨0x11D50, ["aMASARAM GONDI DIGIT ZEROdONEdTWOdTHREEdFOURdFIVEdSIXdSEVENdEIGHTdNINE"]⟩,
    ⟨0x11D60, ["aGUNJALA GONDI LETTER AdAAdIdIIdUdUU"]⟩,
    ⟨0x11D67, ["aGUNJALA GONDI LETTER EEdAI"]⟩,
    ⟨0x11D6A,
      ["aGUNJALA GONDI LETTER OOdAUdYAdVAdBAdBHAdMAdKAdKHAdTAdTHAdLAdGAdGHAdDAdDHAdNAdCAdCHA",
       "dTTAdTTHAdLLAdJAdJHAdDDAdDDHAdNGAdPAdPHAdHAdRAdSAcVOWEL SIGN AAeIeIIeUeUU"]⟩,
    ⟨0x11D90, ["aGUNJALA GONDI VOWEL SIGN EEeAI"]⟩,
    ⟨0x11D93, ["aGUNJALA GONDI VOWEL SIGN OOeAUcSIGN ANUSVARAdVISARGAcVIRAMAcOM"]⟩,
    ⟨0x11DA0, ["aGUNJALA GONDI DIGIT ZEROdONEdTWOdTHREEdFOURdFIVEdSIXdSEVENdEIGHTdNINE"]⟩,
    ⟨0x11EE0,
      ["aMAKASAR LETTER KAcGAcNGAcPAcBAcMAcTAcDAcNAcCAcJAcNYAcYAcRAcLAcVAcSAcAbANGKA",
       "bVOWEL SIGN IdUdEdObPASSIMBANGbEND OF SECTION"]⟩,
    ⟨0x11FB0, ["aLISU LETTER YHA"]⟩,
    ⟨0x11FC0,
      ["aTAMIL FRACTION ONE THREE-HUNDRED-AND-TWENTIETHdONE-HUNDRED-AND-SIXTIETHdEIGHTIETH",
       "dSIXTY-FOURTHdFORTIETHdTHIRTY-SECONDcTHREE EIGHTIETHSdSIXTY-FOURTHScONE TWENTIETH",
       "dSIXTEENTH-1e2dTENTHdEIGHTHcTHREE TWENTIETHSdSIXTEENTHScONE FIFTHdQUARTERdHALF-1e2",
       "cTHREE QUARTERScDOWNSCALING FACTOR KIIZHbSIGN NELcCEVITUcAAZHAAKKUcUZHAKKU",
       "cMUUVUZHAKKUcKURUNIcPATHAKKUcMUKKURUNIcKAACUcPANAMcPONcVARAAKANcPAARAMcKUZHIcVELI",
       "bWET CULTIVATION SIGNbDRY CULTIVATION SIGNbLAND SIGNbSALT PAN SIGN",
       "bTRADITIONAL CREDIT SIGNcNUMBER SIGNbCURRENT SIGNbAND ODD SIGNbSPENT SIGNbTOTAL SIGN",
       "bIN POSSESSION SIGNbSTARTING FROM SIGNbSIGN MUTHALIYAcVAKAIYARAA"]⟩,
    ⟨0x11FFF,
      ["aTAMIL PUNCTUATION END OF TEXTaCUNEIFORM SIGN AcA TIMES AeBADeGAN2 TENUeHAeIGI",
       "eLAGAR GUNUeMUSHeSAGcA2cABcAB TIMES ASH2eDUN3 GUNUeGALeGAN2 TENUeHAeIGI GUNUeIMIN",
       "eLAGABeSHESHeU PLUS U PLUS UdGUNUcAB2cAB2 TIMES BALAGeGAN2 TENUeME PLUS ENeSHA3eTAK4",
       "cADcAKcAK TIMES ERIN2eSHITA PLUS GISHcALcAL TIMES ALeDIM2eGISHeHAeKAD3eKIeSHEeUSH",
       "cALANcALEPHcAMARcAMAR TIMES SHEcANcAN OVER ANdTHREE TIMES",
       "dPLUS NAGA OPPOSING AN PLUS NAGAfSQUAREDcANSHEcAPINcARADcARAD TIMES KURcARKABcASAL2",
       "cASHcASH ZIDA TENUdKABA TENUdOVER ASH TUG2 OVER TUG2 TUG2 OVER TUG2 PAPfOVER ASH",
       "gASH CROSSING ASH OVER ASH OVER ASHcASH2cASHGABcBAcBADcBAG3cBAHAR2cBALcBAL OVER BAL",
       "cBALAGcBARcBARA2cBIcBI TIMES AeGAReIGI GUNUcBUcBU OVER BU ABfUNdCROSSING BUcBULUG",
       "cBULUG OVER BULUGcBURcBUR2cDAcDAGcDAG KISIM5 TIMES A PLUS MASHfAMARfBALAGfBIfGA",
       "fGA PLUS MASHfGIfGIR2fGUDfHAfIRfIR PLUS LUfKAKfLAfLUfLU PLUS MASH2fLUMfNE",
       "fPAP PLUS PAPfSIfTAK4fU2 PLUS GIR2fUSHcDAMcDARcDARA3cDARA4cDIcDIBcDIMcDIM TIMES SHE",
       "cDIM2cDINcDIN KASKAL U GUNU DISHcDISHcDUcDU OVER DUdGUNUdSHESHIGcDUBcDUB TIMES ESH2",
       "cDUB2cDUGcDUGUDcDUHcDUNcDUN3cDUN3 GUNUdGUNU GUNUcDUN4cDUR2cEcE TIMES PAP",
       "dOVER E NUN OVER NUNcE2cE2 TIMES A PLUS HA PLUS DAeGAReMIeSALeSHEeUcEDINcEGIRcELcEN",
       "cEN TIMES GAN2eGAN2 TENUeMEdCROSSING ENdOPPOSING ENdSQUAREDcERENcERIN2cESH2cEZEN",
       "cEZEN TIMES AeA PLUS LALgLAL TIMES LALeANeBADeDUN3 GUNUfGUNU GUNUeHAeHA GUNUeIGI GUNU",
       "eKASKALeKASKAL SQUAREDeKU3eLAeLAL TIMES LALeLIeLUeU2eUDcGAcGA GUNUcGA2",
       "cGA2 TIMES A PLUS DA PLUS HAgHAgIGIeAB2 TENU PLUS TABeANeASHeASH2 PLUS GALeBAD",
       "eBAR PLUS RAeBUReBUR PLUS RAeDAeDIeDIM TIMES SHEeDUBeELeEL PLUS LAeEN",
       "eEN TIMES GAN2 TENUeGAN2 TENUeGAReGIeGI4eGI4 PLUS AeGIR2 PLUS SUeHA PLUS LU PLUS ESH2",
       "eHALeHAL PLUS LAeHI PLUS LIeHUB2eIGI GUNUeISH PLUS HU PLUS ASHeKAKeKASKALeKID",
       "eKID PLUS LALeKU3 PLUS ANeLAeME PLUS ENeMIeNUNeNUN OVER NUNePAeSALeSAReSHE",
       "eSHE PLUS TUReSHIDeSUMeTAK4eUeUDeUD PLUS DUdOVER GA2cGABAcGABA CROSSING GABAcGAD",
       "cGAD OVER GAD GAR OVER GARcGALcGAL GAD OVER GAD GAR OVER GARcGALAMcGAMcGANcGAN2",
       "cGAN2 TENUdOVER GAN2dCROSSING GAN2cGARcGAR3cGASHANcGESHTINcGESHTIN TIMES KURcGI",
       "cGI TIMES EeUdCROSSING GIcGI4cGI4 OVER GI4dCROSSING GI4cGIDIMcGIR2cGIR2 GUNUcGIR3",
       "cGIR3 TIMES A PLUS IGIeGAN2 TENUeIGIeLU PLUS IGIePAcGISALcGISHcGISH CROSSING GISH",
       "dTIMES BADeTAK4dTENUcGUcGU CROSSING GUcGU2cGU2 TIMES KAKeKAK TIMES IGI GUNUeNUN",
       "eSAL PLUS TUG2dGUNUcGUDcGUD TIMES A PLUS KUReKURdOVER GUD LUGALcGULcGUMcGUM TIMES SHE",
       "cGURcGUR7cGURUNcGURUSHcHAcHA TENUdGUNUcHALcHIcHI TIMES ASHeASH2eBADeDISHeGADeKINeNUN",
       "eSHEeUcHUcHUB2cHUB2 TIMES ANeHALeKASKALeLISHeUDcHUL2cIcI AcIBcIDIMcIDIM OVER IDIM BUR",
       "fSQUAREDcIGcIGIcIGI DIBdRIdOVER IGI SHIR OVER SHIR UD OVER UDdGUNUcIL",
       "cIL TIMES GAN2 TENUcIL2cIMcIM TIMES TAK4dCROSSING IMdOPPOSING IMdSQUAREDcIMINcINcIR",
       "cISHcKAcKA TIMES AeADeAD PLUS KU3eASH2eBADeBALAGeBAReBIeERIN2eESH2eGAeGALeGAN2 TENU",
       "eGAReGAR PLUS SHA3 PLUS AeGIeGIR2eGISH PLUS SARfCROSSING GISHeGUeGUR7eIGIeIMeKAKeKI",
       "eKIDeLIeLUeMEeME PLUS DUgGIgTEeMIeMI PLUS NUNUZeNEeNUNePIeRUeSAeSAReSHAeSHEeSHIDeSHU",
       "eSIGeSUHUReTAReUeU2eUDeUMUM TIMES PAeUSHeZIcKA2cKA2 CROSSING KA2cKABcKAD2cKAD3cKAD4",
       "cKAD5cKAD5 OVER KAD5cKAKcKAK TIMES IGI GUNUcKALcKAL TIMES BADdCROSSING KALcKAM2cKAM4",
       "cKASKALcKASKAL LAGAB TIMES U OVER LAGAB TIMES U",
       "dOVER KASKAL LAGAB TIMES U OVER LAGAB TIMES UcKESH2cKIcKI TIMES BADeUeUDcKIDcKIN",
       "cKISALcKISHcKISIM5cKISIM5 OVER KISIM5cKUcKU OVER HI TIMES ASH2 KU OVER HI TIMES ASH2",
       "cKU3cKU4cKU4 VARIANT FORMcKU7cKULcKUL GUNUcKUNcKURcKUR OPPOSING KURcKUSHU2cKWU318cLA",
       "cLAGABcLAGAB TIMES AeA PLUS DA PLUS HAgGARgLALeALeANeASH ZIDA TENUeBADeBIeDAReENeGA",
       "eGAReGUDeGUD PLUS GUDeHAeHALeHI TIMES NUNeIGI GUNUeIMeIM PLUS HAgLUeKIeKINeKU3eKUL",
       "eKUL PLUS HI PLUS AeLAGABeLISHeLUeLULeMEeME PLUS ENeMUSHeNEeSHE PLUS SUM",
       "eSHITA PLUS GISH PLUS ERIN2hTENUeSHU2eSHU2 PLUS SHU2eSUMeTAGeTAK4",
       "eTE PLUS A PLUS SU PLUS NAeUeU PLUS AgU PLUS UeU2 PLUS ASHeUDeUSHdSQUAREDcLAGAR",
       "cLAGAR TIMES SHEeSHE PLUS SUMdGUNUdGUNU OVER LAGAR GUNU SHEcLAHSHUcLALcLAL TIMES LAL",
       "cLAMcLAM TIMES KUReKUR PLUS RUcLIcLILcLIMMU2cLISHcLUcLU TIMES BADcLU2cLU2 TIMES AL",
       "eBADeESH2eESH2 TENUeGAN2 TENUeHI TIMES BADeIMeKAD2eKAD3eKAD3 PLUS ASHeKIeLA PLUS ASH",
       "eLAGABeME PLUS ENeNEeNUeSI PLUS ASHeSIK2 PLUS BUeTUG2dTENUdCROSSING LU2dOPPOSING LU2",
       "dSQUAREDdSHESHIGcLU3cLUGALcLUGAL OVER LUGALdOPPOSING LUGALdSHESHIGcLUHcLULcLUM",
       "cLUM OVER LUMeLUM GAR OVER GARcMAcMA TIMES TAK4dGUNUcMA2cMAHcMARcMASHcMASH2cMEcMEScMI",
       "cMINcMUcMU OVER MUcMUGcMUG GUNUcMUNSUBcMURGU2cMUSHcMUSH TIMES AeKUReZAdOVER MUSH",
       "eMUSH TIMES A PLUS NAdCROSSING MUSHcMUSH3cMUSH3 TIMES AeA PLUS DIeDIdGUNUcNAcNA2cNAGA",
       "cNAGA INVERTEDdTIMES SHU TENUdOPPOSING NAGAcNAGARcNAM NUTILLUcNAMcNAM2cNEcNE TIMES A",
       "eUDdSHESHIGcNIcNI TIMES EcNI2cNIMcNIM TIMES GAN2 TENUeGAR PLUS GAN2 TENUcNINDA2",
       "cNINDA2 TIMES ANeASHeASH PLUS ASHeGUDeME PLUS GAN2 TENUeNEeNUNeSHEeSHE PLUS A ANgASH",
       "gASH PLUS ASHeU2 PLUS ASHeUSHcNISAGcNUcNU11cNUNcNUN LAGAR TIMES GARfMASHfSAL",
       "fSAL OVER NUN LAGAR TIMES SALfUSHdTENUdOVER NUNdCROSSING NUNeNUN LAGAR OVER LAGAR",
       "cNUNUZcNUNUZ AB2 TIMES ASHGABfBIfDUGfGUDfIGI GUNUfKAD3fLAfNEfSILA3fU2dKISIM5 TIMES BI",
       "fBI UcPAcPADcPANcPAPcPESH2cPIcPI TIMES AeABeBIeBUeEeIeIBeUeU2dCROSSING PIcPIRIG",
       "cPIRIG TIMES KALeUDeZAdOPPOSING PIRIGcRAcRABcRIcRUcSAcSAG NUTILLUcSAGcSAG TIMES AeDU",
       "eDUBeHAeKAKeKUReLUMeMIeNUNeSALeSHIDeTABeU2eUBeUMeUReUSHdOVER SAGdGUNUcSAL",
       "cSAL LAGAB TIMES ASH2cSANGA2cSARcSHAcSHA3cSHA3 TIMES AeBADeGISHeNEeSHU2eTUReU",
       "eU PLUS AcSHA6cSHAB6cSHAR2cSHEcSHE HUdOVER SHE GAD OVER GAD GAR OVER GAR",
       "fTAB OVER TAB GAR OVER GARcSHEG9cSHENcSHESHcSHESH2cSHESHLAMcSHIDcSHID TIMES AeIMcSHIM",
       "cSHIM TIMES AeBALeBULUGeDINeGAReIGIeIGI GUNUeKUSHU2eLULeMUGeSALcSHINIGcSHIRcSHIR TENU",
       "dOVER SHIR BUR OVER BURcSHITAcSHUcSHU OVER INVERTED SHUcSHU2cSHUBURcSIcSI GUNUcSIG",
       "cSIG4cSIG4 OVER SIG4 SHU2cSIK2cSILA3cSUcSU OVER SUcSUDcSUD2cSUHURcSUMcSUMASHcSURcSUR9",
       "cTAcTA ASTERISKdTIMES HIeMIdGUNUcTABcTAB OVER TAB NI OVER NI DISH OVER DISHdSQUARED",
       "cTAGcTAG TIMES BIeGUDeSHEeSHUeTUG2eUDcTAK4cTARcTEcTE GUNUcTIcTI TENUcTILcTIR",
       "cTIR TIMES TAK4dOVER TIReTIR GAD OVER GAD GAR OVER GARcTUcTUG2cTUKcTUMcTUR",
       "cTUR OVER TUR ZA OVER ZAcUcU GUDdU UdOVER U PA OVER PA GAR OVER GARfSUR OVER SUR",
       "fU REVERSED OVER U REVERSEDcU2cUBcUDcUD KUSHU2dTIMES BADeMIeU PLUS U PLUS UiU GUNU",
       "dGUNUdSHESHIGdSHESHIG TIMES BADcUDUGcUMcUM TIMES LAGABeME PLUS DAeSHA3eUcUMBINcUMUM",
       "cUMUM TIMES KASKALePAcUNcUN GUNUcURcUR CROSSING URdSHESHIGcUR2cUR2 TIMES A PLUS HAgNA",
       "eALeHAeNUNeU2eU2 PLUS ASHgBIcUR4cURIcURI3cURUcURU TIMES AeASHGABeBAReDUNeGAeGAL",
       "eGAN2 TENUeGAReGUeHAeIGIeIMeISHeKIeLUMeMINePAeSHEeSIG4eTUeU PLUS GUDeUDeURUDAcURUDA",
       "cURUDA TIMES UcUSHcUSH TIMES AeKUeKUReTAK4cUSHXcUSH2cUSHUMXcUTUKIcUZ3",
       "cUZ3 TIMES KASKALcUZUcZAcZA TENUdSQUARED TIMES KURcZAGcZAMXcZE2cZIcZI OVER ZIcZI3cZIB",
       "cZIB KABA TENUcZIGcZIZ2cZUcZU5cZU5 TIMES AcZUBURcZUMcKAP ELAMITEcAB TIMES NUN",
       "cAB2 TIMES AcAMAR TIMES KUGcDAG KISIM5 TIMES U2 PLUS MASHcDAG3cDISH PLUS SHU",
       "cDUB TIMES SHEcEZEN TIMES GUDeSHEcGA2 TIMES AN PLUS KAK PLUS AeASH2cGE22cGIGcHUSH",
       "cKA TIMES ANSHEeASH3eGISHeGUDeHI TIMES ASH2eLUMePAeSHULeTUeUR2cLAGAB TIMES GI",
       "cLU2 SHESHIG TIMES BADdTIMES ESH2 PLUS LALeSHUcMESHcMUSH3 TIMES ZAcNA4cNINcNIN9",
       "cNINDA2 TIMES BALeGIcNU11 ROTATED NINETY DEGREEScPESH2 ASTERISKcPIR2",
       "cSAG TIMES IGI GUNUcTI2cUM TIMES MEcU U"]⟩,
    ⟨0x12400,
      ["aCUNEIFORM NUMERIC SIGN TWO ASHdTHREE ASHdFOUR ASHdFIVE ASHdSIX ASHdSEVEN ASH",
       "dEIGHT ASHdNINE ASHdTHREE DISHdFOUR DISHdFIVE DISHdSIX DISHdSEVEN DISHdEIGHT DISH",
       "dNINE DISHdFOUR UdFIVE UdSIX UdSEVEN UdEIGHT UdNINE UdONE GESH2dTWO GESH2dTHREE GESH2",
       "dFOUR GESH2dFIVE GESH2dSIX GESH2dSEVEN GESH2dEIGHT GESH2dNINE GESH2dONE GESHU",
       "dTWO GESHUdTHREE GESHUdFOUR GESHUdFIVE GESHUdTWO SHAR2dTHREE SHAR2eSHAR2 VARIANT FORM",
       "dFOUR SHAR2dFIVE SHAR2dSIX SHAR2dSEVEN SHAR2dEIGHT SHAR2dNINE SHAR2dONE SHARU",
       "dTWO SHARUdTHREE SHARUeSHARU VARIANT FORMdFOUR SHARUdFIVE SHARU",
       "dSHAR2 TIMES GAL PLUS DISHhMINdONE BURUdTWO BURUdTHREE BURUeBURU VARIANT FORM",
       "dFOUR BURUdFIVE BURUdTHREE VARIANT FORM ESH16gESH21dFOUR VARIANT FORM LIMMUgLIMMU4",
       "gLIMMU AhBdSIX VARIANT FORM ASH9dSEVEN VARIANT FORM IMIN3gIMIN AhB",
       "dEIGHT VARIANT FORM USSUgUSSU3dNINE VARIANT FORM ILIMMUgILIMMU3gILIMMU4gILIMMU A",
       "dTWO ASH TENUdTHREE ASH TENUdFOUR ASH TENUdFIVE ASH TENUdSIX ASH TENUdONE BAN2",
       "dTWO BAN2dTHREE BAN2dFOUR BAN2eBAN2 VARIANT FORMdFIVE BAN2eBAN2 VARIANT FORM",
       "dNIGIDAMINdNIGIDAESHdONE ESHE3dTWO ESHE3dONE THIRD DISHdTWO THIRDS DISH",
       "dFIVE SIXTHS DISHdONE THIRD VARIANT FORM AdTWO THIRDS VARIANT FORM AdONE EIGHTH ASH",
       "eQUARTER ASHdOLD ASSYRIAN ONE SIXTHgQUARTERdONE QUARTER GUReHALF GUR",
       "dELAMITE ONE THIRDeTWO THIRDSeFORTYeFIFTYdFOUR U VARIANT FORMdFIVE U VARIANT FORM",
       "dSIX U VARIANT FORMdSEVEN U VARIANT FORMdEIGHT U VARIANT FORMdNINE U VARIANT FORM"]⟩,
    ⟨0x12470,
      ["aCUNEIFORM PUNCTUATION SIGN OLD ASSYRIAN WORD DIVIDERdVERTICAL COLONdDIAGONAL COLON",
       "eTRICOLONeQUADCOLON"]⟩,
    ⟨0x12480,
      ["aCUNEIFORM SIGN AB TIMES NUN TENUeSHU2cAD TIMES ESH2cBAD TIMES DISH TENU",
       "cBAHAR2 TIMES AB2eNIeZAcBU OVER BU TIMES NA2cDA TIMES TAK4cDAG TIMES KUR",
       "cDIM TIMES IGIeU U UcDIM2 TIMES UDcDUG TIMES ANSHEeASHeASH AT LEFTeDINeDUNeERIN2eGA",
       "eGIeGIR2 GUNUeGISHeHAeHIeIGI GUNUeKASKALeKUReKUSHU2eKUSHU2 PLUS KASKALeLAK-020eLAM",
       "eLAM TIMES KUReLUH PLUS GISHeMASHeMESeMIeNIePIeSHEeSI GUNUcE2 TIMES KURePAPcERIN2 X",
       "cESH2 CROSSING ESH2cEZEN SHESHIG TIMES ASHfHIfIGI GUNUfLAfLALfMEfMESfSUdTIMES SU",
       "cGA2 TIMES BAHAR2eDIM GUNUeDUG TIMES IGI GUNUgKASKALeERENeGAeGAR PLUS DIgNEeHA PLUS A",
       "eKUSHU2 PLUS KASKALeLAMeLAM TIMES KUReLUHeMUSHeNEeNE PLUS E2gGIeSHIMeZIZ2",
       "cGABA ROTATED NINETY DEGREEScGESHTIN TIMES UcGISH TIMES GISH CROSSING GISH",
       "cGU2 TIMES IGI GUNUcGUD PLUS GISH TIMES TAK4cHA TENU GUNU",
       "cHI TIMES ASH OVER HI TIMES ASHcKA TIMES BUeKAeU U UeURcLAGAB TIMES ZU OVER ZU",
       "cLAK-003d021d025d030d050d051d062d079 OVER LAK-079 GUNUd080d081 OVER LAK-081d092d130",
       "d142d210d219d220d225d228d238d265d266d343d347d348d383d384d390d441d449d449 TIMES GUfIGI",
       "fPAP PLUS LU3hPAP PLUS LU3fU2 PLUS BAd450d457d470d483d490d492d493d495d550d608d617",
       "d617 TIMES ASHfBADfDUN3 GUNU GUNUfKU3fLAfTARfTEfU2fUDfURUDAd636d648d648 TIMES DUBfGA",
       "fIGIfIGI GUNUfNIfPAP PLUS PAP PLUS LU3fSHESH PLUS KIfUDfURUDAd724d749",
       "cLU2 GUNU TIMES ASHdTIMES DISHeHALePAPePAP PLUS PAP PLUS LU3eTAK4cMI PLUS ZA7",
       "cMUSH OVER MUSH TIMES GAgKAKcNINDA2 TIMES DIM GUNUeGISHeGULeHIeKESH2eLAK-050eMASH",
       "ePAP PLUS PAPeUeU PLUS UeURUDAcSAG GUNU TIMES HAdTIMES ENeSHE AT LEFTeTAK4cSHA6 TENU",
       "cSHE OVER SHEdPLUS HUB2eNAM2eSARcSHU2 PLUS DUG TIMES NIeE2 TIMES ANcSI TIMES TAK4",
       "cTAK4 PLUS SAGcTUM TIMES GAN2 TENUeTHREE DISHcUR2 INVERTEDdTIMES UDcURU TIMES DARA3",
       "eLAK-668eLU3cZA7cZU OVER ZU PLUS SARcZU5 TIMES THREE DISH TENU"]⟩,
    ⟨0x12F90,
      ["aCYPRO-MINOAN SIGN CM001dCM002dCM004dCM005dCM006dCM007dCM008dCM009dCM010dCM011dCM012",
       "dCM012BdCM013dCM015dCM017dCM019dCM021dCM023dCM024dCM025dCM026dCM027dCM028dCM029dCM030",
       "dCM033dCM034dCM035dCM036dCM037dCM038dCM039dCM040dCM041dCM044dCM046dCM047dCM049dCM050",
       "dCM051dCM052dCM053dCM054dCM055dCM056dCM058dCM059dCM060dCM061dCM062dCM063dCM064dCM066",
       "dCM067dCM068dCM069dCM070dCM071dCM072dCM073dCM074dCM075dCM075BdCM076dCM078dCM079dCM080",
       "dCM081dCM082dCM083dCM084dCM085dCM086dCM087dCM088dCM089dCM090dCM091dCM092dCM094dCM095",
       "dCM096dCM097dCM098dCM099dCM100dCM101dCM102dCM103dCM104dCM105dCM107dCM108dCM109dCM110",
       "dCM112dCM114dCM301dCM302"]⟩,
    ⟨0x13000,
      ["aEGYPTIAN HIEROGLYPH A001cA002cA003cA004cA005cA005AcA006cA006AcA006BcA007cA008cA009",
       "cA010cA011cA012cA013cA014cA014AcA015cA016cA017cA017AcA018cA019cA020cA021cA022cA023",
       "cA024cA025cA026cA027cA028cA029cA030cA031cA032cA032AcA033cA034cA035cA036cA037cA038",
       "cA039cA040cA040AcA041cA042cA042AcA043cA043AcA044cA045cA045AcA046cA047cA048cA049cA050",
       "cA051cA052cA053cA054cA055cA056cA057cA058cA059cA060cA061cA062cA063cA064cA065cA066cA067",
       "cA068cA069cA070cB001cB002cB003cB004cB005cB005AcB006cB007cB008cB009cC001cC002cC002A",
       "cC002BcC002CcC003cC004cC005cC006cC007cC008cC009cC010cC010AcC011cC012cC013cC014cC015",
       "cC016cC017cC018cC019cC020cC021cC022cC023cC024cD001cD002cD003cD004cD005cD006cD007cD008",
       "cD008AcD009cD010cD011cD012cD013cD014cD015cD016cD017cD018cD019cD020cD021cD022cD023",
       "cD024cD025cD026cD027cD027AcD028cD029cD030cD031cD031AcD032cD033cD034cD034AcD035cD036",
       "cD037cD038cD039cD040cD041cD042cD043cD044cD045cD046cD046AcD047cD048cD048AcD049cD050",
       "cD050AcD050BcD050CcD050DcD050EcD050FcD050GcD050HcD050IcD051cD052cD052AcD053cD054",
       "cD054AcD055cD056cD057cD058cD059cD060cD061cD062cD063cD064cD065cD066cD067cD067AcD067B",
       "cD067CcD067DcD067EcD067FcD067GcD067HcE001cE002cE003cE004cE005cE006cE007cE008cE008A",
       "cE009cE009AcE010cE011cE012cE013cE014cE015cE016cE016AcE017cE017AcE018cE019cE020cE020A",
       "cE021cE022cE023cE024cE025cE026cE027cE028cE028AcE029cE030cE031cE032cE033cE034cE034A",
       "cE036cE037cE038cF001cF001AcF002cF003cF004cF005cF006cF007cF008cF009cF010cF011cF012",
       "cF013cF013AcF014cF015cF016cF017cF018cF019cF020cF021cF021AcF022cF023cF024cF025cF026",
       "cF027cF028cF029cF030cF031cF031AcF032cF033cF034cF035cF036cF037cF037AcF038cF038AcF039",
       "cF040cF041cF042cF043cF044cF045cF045AcF046cF046AcF047cF047AcF048cF049cF050cF051cF051A",
       "cF051BcF051CcF052cF053cG001cG002cG003cG004cG005cG006cG006AcG007cG007AcG007BcG008cG009",
       "cG010cG011cG011AcG012cG013cG014cG015cG016cG017cG018cG019cG020cG020AcG021cG022cG023",
       "cG024cG025cG026cG026AcG027cG028cG029cG030cG031cG032cG033cG034cG035cG036cG036AcG037",
       "cG037AcG038cG039cG040cG041cG042cG043cG043AcG044cG045cG045AcG046cG047cG048cG049cG050",
       "cG051cG052cG053cG054cH001cH002cH003cH004cH005cH006cH006AcH007cH008cI001cI002cI003",
       "cI004cI005cI005AcI006cI007cI008cI009cI009AcI010cI010AcI011cI011AcI012cI013cI014cI015",
       "cK001cK002cK003cK004cK005cK006cK007cK008cL001cL002cL002AcL003cL004cL005cL006cL006A",
       "cL007cL008cM001cM001AcM001BcM002cM003cM003AcM004cM005cM006cM007cM008cM009cM010cM010A",
       "cM011cM012cM012AcM012BcM012CcM012DcM012EcM012FcM012GcM012HcM013cM014cM015cM015AcM016",
       "cM016AcM017cM017AcM018cM019cM020cM021cM022cM022AcM023cM024cM024AcM025cM026cM027cM028",
       "cM028AcM029cM030cM031cM031AcM032cM033cM033AcM033BcM034cM035cM036cM037cM038cM039cM040",
       "cM040AcM041cM042cM043cM044cN001cN002cN003cN004cN005cN006cN007cN008cN009cN010cN011",
       "cN012cN013cN014cN015cN016cN017cN018cN018AcN018BcN019cN020cN021cN022cN023cN024cN025",
       "cN025AcN026cN027cN028cN029cN030cN031cN032cN033cN033AcN034cN034AcN035cN035AcN036cN037",
       "cN037AcN038cN039cN040cN041cN042cNL001cNL002cNL003cNL004cNL005cNL005AcNL006cNL007",
       "cNL008cNL009cNL010cNL011cNL012cNL013cNL014cNL015cNL016cNL017cNL017AcNL018cNL019cNL020",
       "cNU001cNU002cNU003cNU004cNU005cNU006cNU007cNU008cNU009cNU010cNU010AcNU011cNU011A",
       "cNU012cNU013cNU014cNU015cNU016cNU017cNU018cNU018AcNU019cNU020cNU021cNU022cNU022AcO001",
       "cO001AcO002cO003cO004cO005cO005AcO006cO006AcO006BcO006CcO006DcO006EcO006FcO007cO008",
       "cO009cO010cO010AcO010BcO010CcO011cO012cO013cO014cO015cO016cO017cO018cO019cO019AcO020",
       "cO020AcO021cO022cO023cO024cO024AcO025cO025AcO026cO027cO028cO029cO029AcO030cO030AcO031",
       "cO032cO033cO033AcO034cO035cO036cO036AcO036BcO036CcO036DcO037cO038cO039cO040cO041cO042",
       "cO043cO044cO045cO046cO047cO048cO049cO050cO050AcO050BcO051cP001cP001AcP002cP003cP003A",
       "cP004cP005cP006cP007cP008cP009cP010cP011cQ001cQ002cQ003cQ004cQ005cQ006cQ007cR001cR002",
       "cR002AcR003cR003AcR003BcR004cR005cR006cR007cR008cR009cR010cR010AcR011cR012cR013cR014",
       "cR015cR016cR016AcR017cR018cR019cR020cR021cR022cR023cR024cR025cR026cR027cR028cR029",
       "cS001cS002cS002AcS003cS004cS005cS006cS006AcS007cS008cS009cS010cS011cS012cS013cS014",
       "cS014AcS014BcS015cS016cS017cS017AcS018cS019cS020cS021cS022cS023cS024cS025cS026cS026A",
       "cS026BcS027cS028cS029cS030cS031cS032cS033cS034cS035cS035AcS036cS037cS038cS039cS040",
       "cS041cS042cS043cS044cS045cS046cT001cT002cT003cT003AcT004cT005cT006cT007cT007AcT008",
       "cT008AcT009cT009AcT010cT011cT011AcT012cT013cT014cT015cT016cT016AcT017cT018cT019cT020",
       "cT021cT022cT023cT024cT025cT026cT027cT028cT029cT030cT031cT032cT032AcT033cT033AcT034",
       "cT035cT036cU001cU002cU003cU004cU005cU006cU006AcU006BcU007cU008cU009cU010cU011cU012",
       "cU013cU014cU015cU016cU017cU018cU019cU020cU021cU022cU023cU023AcU024cU025cU026cU027",
       "cU028cU029cU029AcU030cU031cU032cU032AcU033cU034cU035cU036cU037cU038cU039cU040cU041",
       "cU042cV001cV001AcV001BcV001CcV001DcV001EcV001FcV001GcV001HcV001IcV002cV002AcV003cV004",
       "cV005cV006cV007cV007AcV007BcV008cV009cV010cV011cV011AcV011BcV011CcV012cV012AcV012B",
       "cV013cV014cV015cV016cV017cV018cV019cV020cV020AcV020BcV020CcV020DcV020EcV020FcV020G",
       "cV020HcV020IcV020JcV020KcV020LcV021cV022cV023cV023AcV024cV025cV026cV027cV028cV028A",
       "cV029cV029AcV030cV030AcV031cV031AcV032cV033cV033AcV034cV035cV036cV037cV037AcV038cV039",
       "cV040cV040AcW001cW002cW003cW003AcW004cW005cW006cW007cW008cW009cW009AcW010cW010AcW011",
       "cW012cW013cW014cW014AcW015cW016cW017cW017AcW018cW018AcW019cW020cW021cW022cW023cW024",
       "cW024AcW025cX001cX002cX003cX004cX004AcX004BcX005cX006cX006AcX007cX008cX008AcY001",
       "cY001AcY002cY003cY004cY005cY006cY007cY008cZ001cZ002cZ002AcZ002BcZ002CcZ002DcZ003",
       "cZ003AcZ003BcZ004cZ004AcZ005cZ005AcZ006cZ007cZ008cZ009cZ010cZ011cZ012cZ013cZ014cZ015",
       "cZ015AcZ015BcZ015CcZ015DcZ015EcZ015FcZ015GcZ015HcZ015IcZ016cZ016AcZ016BcZ016CcZ016D",
       "cZ016EcZ016FcZ016GcZ016HcAA001cAA002cAA003cAA004cAA005cAA006cAA007cAA007AcAA007B",
       "cAA008cAA009cAA010cAA011cAA012cAA013cAA014cAA015cAA016cAA017cAA018cAA019cAA020cAA021",
       "cAA022cAA023cAA024cAA025cAA026cAA027cAA028cAA029cAA030cAA031cAA032"]⟩,
    ⟨0x13430,
      ["aEGYPTIAN HIEROGLYPH VERTICAL JOINERcHORIZONTAL JOINERcINSERT AT TOP START",
       "eBOTTOM STARTeTOP ENDeBOTTOM ENDcOVERLAY MIDDLEcBEGIN SEGMENTcEND SEGMENT"]⟩,
    ⟨0x14400,
      ["aANATOLIAN HIEROGLYPH A001cA002cA003cA004cA005cA006cA007cA008cA009cA010cA010AcA011",
       "cA012cA013cA014cA015cA016cA017cA018cA019cA020cA021cA022cA023cA024cA025cA026cA026A",
       "cA027cA028cA029cA030cA031cA032cA033cA034cA035cA036cA037cA038cA039cA039AcA040cA041",
       "cA041AcA042cA043cA044cA045cA045AcA046cA046AcA046BcA047cA048cA049cA050cA051cA052cA053",
       "cA054cA055cA056cA057cA058cA059cA060cA061cA062cA063cA064cA065cA066cA066AcA066BcA066C",
       "cA067cA068cA069cA070cA071cA072cA073cA074cA075cA076cA077cA078cA079cA080cA081cA082cA083",
       "cA084cA085cA086cA087cA088cA089cA090cA091cA092cA093cA094cA095cA096cA097cA097AcA098",
       "cA098AcA099cA100cA100AcA101cA101AcA102cA102AcA103cA104cA104AcA104BcA104CcA105cA105A",
       "cA105BcA106cA107cA107AcA107BcA107CcA108cA109cA110cA110AcA110BcA111cA112cA113cA114",
       "cA115cA115AcA116cA117cA118cA119cA120cA121cA122cA123cA124cA125cA125AcA126cA127cA128",
       "cA129cA130cA131cA132cA133cA134cA135cA135AcA136cA137cA138cA139cA140cA141cA142cA143",
       "cA144cA145cA146cA147cA148cA149cA150cA151cA152cA153cA154cA155cA156cA157cA158cA159cA160",
       "cA161cA162cA163cA164cA165cA166cA167cA168cA169cA170cA171cA172cA173cA174cA175cA176cA177",
       "cA178cA179cA180cA181cA182cA183cA184cA185cA186cA187cA188cA189cA190cA191cA192cA193cA194",
       "cA195cA196cA197cA198cA199cA200cA201cA202cA202AcA202BcA203cA204cA205cA206cA207cA207A",
       "cA208cA209cA209AcA210cA211cA212cA213cA214cA215cA215AcA216cA216AcA217cA218cA219cA220",
       "cA221cA222cA223cA224cA225cA226cA227cA227AcA228cA229cA230cA231cA232cA233cA234cA235",
       "cA236cA237cA238cA239cA240cA241cA242cA243cA244cA245cA246cA247cA248cA249cA250cA251cA252",
       "cA253cA254cA255cA256cA257cA258cA259cA260cA261cA262cA263cA264cA265cA266cA267cA267A",
       "cA268cA269cA270cA271cA272cA273cA274cA275cA276cA277cA278cA279cA280cA281cA282cA283cA284",
       "cA285cA286cA287cA288cA289cA289AcA290cA291cA292cA293cA294cA294AcA295cA296cA297cA298",
       "cA299cA299AcA300cA301cA302cA303cA304cA305cA306cA307cA308cA309cA309AcA310cA311cA312",
       "cA313cA314cA315cA316cA317cA318cA319cA320cA321cA322cA323cA324cA325cA326cA327cA328cA329",
       "cA329AcA330cA331cA332AcA332BcA332CcA333cA334cA335cA336cA336AcA336BcA336CcA337cA338",
       "cA339cA340cA341cA342cA343cA344cA345cA346cA347cA348cA349cA350cA351cA352cA353cA354cA355",
       "cA356cA357cA358cA359cA359AcA360cA361cA362cA363cA364cA364AcA365cA366cA367cA368cA368A",
       "cA369cA370cA371cA371AcA372cA373cA374cA375cA376cA377cA378cA379cA380cA381cA381AcA382",
       "cA383 RA OR RIcA383AcA384cA385cA386cA386AcA387cA388cA389cA390cA391cA392cA393 EIGHT",
       "cA394cA395cA396cA397cA398cA399cA400cA401cA402cA403cA404cA405cA406cA407cA408cA409",
       "cA410 BEGIN LOGOGRAM MARKcA410A END LOGOGRAM MARKcA411cA412cA413cA414cA415cA416cA417",
       "cA418cA419cA420cA421cA422cA423cA424cA425cA426cA427cA428cA429cA430cA431cA432cA433cA434",
       "cA435cA436cA437cA438cA439cA440cA441cA442cA443cA444cA445cA446cA447cA448cA449cA450",
       "cA450AcA451cA452cA453cA454cA455cA456cA457cA457AcA458cA459cA460cA461cA462cA463cA464",
       "cA465cA466cA467cA468cA469cA470cA471cA472cA473cA474cA475cA476cA477cA478cA479cA480cA481",
       "cA482cA483cA484cA485cA486cA487cA488cA489cA490cA491cA492cA493cA494cA495cA496cA497cA501",
       "cA502cA503cA504cA505cA506cA507cA508cA509cA510cA511cA512cA513cA514cA515cA516cA517cA518",
       "cA519cA520cA521cA522cA523cA524cA525cA526cA527cA528cA529cA530"]⟩,
    ⟨0x16800,
      ["aBAMUM LETTER PHASE-A NGKUE MFONeGBIEE FONePON MFON PIPAEMGBIEEgPIPAEMBAeNAA MFON",
       "eSHUENSHUETeTITA MFONeNZA MFONeSHINDA PA NJIePON PA NJI PIPAEMGBIEEhPIPAEMBA",
       "eMAEMBGBIEEeTU MAEMBAeNGANGUeMAEMVEUXeMANSUAEeMVEUAENGAMeSEUNYAMeNTOQPENeKEUKEUTNDA",
       "eNKINDIeSUUeNGKUENZEUMeLAPAQeLET KUTeNTAP MFAAeMAEKEUPePASHAEeGHEUAERAEePAMSHAE",
       "eMON NGGEUAETeNZUN MEUTeU YUQ NAEeGHEUAEGHEUAEeNTAP NTAAeSISAeMGBASAeMEUNJOMNDEUQ",
       "eMOOMPUQeKAFAePA LEERAEWAeNDA LEERAEWAePETeMAEMKPENeNIKAePUPeTUAEPeLUAEPeSONJAM",
       "eTEUTEUWENeMAENYIeKETeNDAANGGEUAETeKUOQeMOOMEUTeSHUMeLOMMAEeFIRIeROMeKPOQeSOQ",
       "eMAP PIEETeSHIRAEeNTAPeSHOQ NSHUT YUMeNYIT MONGKEUAEQePAARAEeNKAARAEeUNKNOWNeNGGEN",
       "eMAESIeNJAMeMBANYIeNYETeTEUAENeSOTePAAMeNSHIEEeMAEMeNYIeKAQeNSHAeVEEeLUeNENeNAQeMBAQ",
       "dB NSHUETeTU MAEMGBIEEeSIEEeSET TUeLOM NTEUMeMBA MAELEEeKIEEMeYEURAEeMBAARAEeKAM",
       "ePEESHIeYAFU LEERAEWAeLAM NSHUT NYAMeNTIEE SHEUOQeNDU NJAAeGHEUGHEUAEMePITeTU NSIEE",
       "eSHET NJAQeSHEUAEQTUeMFON TEUAEQeMBIT MBAAKETeNYI NTEUMeKEUPUQeGHEUGHENeKEUYEUX",
       "eLAANAEePARUMeVEUMeNGKINDI MVOPeNGGEU MBUeWUAETeSAKEUAEeTAAMeMEUQeNGGUOQeNGGUOQ LARGE",
       "eMFIYAQeSUEeMBEURIeMONTIEENeNYAEMAEePUNGAAMeMEUT NGGEETeFEUXeMBUOQeFEEeKEUAEM",
       "eMA NJEUAENAfNJUQAeLETeNGGAAMeNSENeMAeKIQeNGOMdC NGKUE MAEMBAeNZAeYUMeWANGKUOQeNGGEN",
       "eNDEUAEREEeNGKAQeGHARAEeMBEEKEETeGBAYIeNYIR MKPARAQ MEUNeNTU MBITeMBEUMePIRIEEN",
       "eNDOMBUeMBAA CABBAGE-TREEeKEUSHEUAEPeGHAPeKEUKAQeYU MUOMAEeNZEUMeMBUEeNSEUAENeMBIT",
       "eYEUQeKPARAQeKAAeSEUXeNDIDAeTAASHAEeNJUEQeTITA YUEeSUAETeNGGUAEN NYAMeVEUXeNANSANAQ",
       "eMA KEUAERIeNTAAeNGGUONeLAPeMBIRIEENeMGBASAQeNTEUNGBAeTEUTEUXeNGGUMeFUEeNDEUTeNSA",
       "eNSHAQeBUNGeVEUAEPENeMBERAEeRUeNJAEMeLAMeTITUAEPeNSUOT NGOMeNJEEEEeKETeNGGUeMAESI",
       "eMBUAEMeLUeKUTeNJAMeNGOMeWUPeNGGUEETeNSOMeNTENeKUOP NKAARAEeNSUNeNDAMeMA NSIEEeYAA",
       "eNDAPeSHUEQeSETFONeMBIeMAEMBAeMBANYIeKEUSEUXeMBEUXeKEUMeMBAA PICKETeYUWOQeNJEUXeMIEE",
       "eMUAEeSHIQeKEN LAWfFATIGUEeNGAQeNAQeLIQePINePENeTETdD MBUOeWAPeNJIeMFONeNJIEEeLIEE",
       "eNJEUTeNSHEEeNGGAAMAEeNYAMeWUAENeNGKUNeSHEEeNGKAPeKEUAETMEUNeTEUTeSHEUAEeNJAPeSUEeKET",
       "eYAEMMAEeKUOMeSAPeMFEUTeNDEUXeMALEERIeMEUTeSEUAEQeYENeNJEUAEMeKEUOT MBUAEeNGKEURIeTU",
       "eGHAAeNGKYEEeFEUFEUAETeNDEEeMGBOFUMeLEUAEPeNDONeMONIeMGBEUNePUUTeMGBIEEeMFOeLUM",
       "eNSIEEPeMBAAeKWAETeNYETeTEUAENeSOTeYUWOQeKEUMeRAEMeTEEEEeNGKEUAEQeMFEUAEeNSIEETeKEUP",
       "ePIPePEUTAEeNYUEeLETeNGGAAMeMFIEEeNGGWAENeYUOMePAPeYUOPeNDAMeNTEUMeSUAEeKUNeNGGEUX",
       "eNGKIEEeTUOTeMEUNeKUQeNSUMeTEUNeMAENJETeNGGAPeLEUMeNGGUOMeNSHUTeNJUEQeGHEUAEeKU",
       "eREN OLDeTAEeTOQeNYIeRIIeLEEEEeMEEEEeMeSUUeMUeSHIIeSHEUXeKYEEeNUeSHUeNTEEePEEeNIeSHOQ",
       "ePUQeMVOPeLOQeREN MUCHeTIeNTUUeMBAA SEVENeSAQeFAAdE NDAPeTOONeMBEUMeLAPeVOMeLOONePAA",
       "eSOMeRAQeNSHUOPeNDUNePUAEeTAMeNGKAeKPEUXeWUOeSEEeNGGEUAETePAAMeTOOeKUOPeLOMeNSHIEE",
       "eNGOPeMAEMeNGKEUXeNGOQeNSHUEeRIMGBAeNJEUXePEEMeSAAeNGGURAEeMGBAeGHEUXeNGKEUAEM",
       "eNJAEMLIeMAPeLOOTeNGGEEEEeNDIQeTAEN NTEUMeSETePUMeNDAA SOFTNESSeNGGUAESHAE NYAMeYIEE",
       "eGHEUNeTUAEeYEUAEePOeTUMAEeKEUAEeSUAENeTEUAEQeVEUAEeWEUXeLAAMePUeTAAQeGHAAMAE",
       "eNGEUREUTeSHEUAEQeMGBENeMBEEeNZAQeNKOMeGBETeTUMeKUETeYAPeNYI CLEAVEReYITeMFEUQeNDIAQ",
       "ePIEEQeYUEQeLEUAEMeFUEeGBEUXeNGKUPeKETeMAEeNGKAAMIeGHETeFAeNTUMePEUTeYEUMeNGGEUAE",
       "eNYI BETWEENeNZUQePOONeMIEEeFUETeNAEeMUAEeGHEUAEeFU IeMVIePUAQeNGKUMeKUTePIETeNTAP",
       "eYEUAETeNGGUPePA PEOPLEeFU CALLeFOMeNJEEeAeTOQeOeIeLAQePA PLURALeTAAeTAQ",
       "eNDAA MY HOUSEeSHIQeYEUXeNGUAEeYUAENeYOQ SWIMMINGfCOVEReYUQeYUNeKEUXePEUXeNJEE EPOCH",
       "ePUEeWUEeFEEeVEEeLUeMIeREUXeRAEeNGUAETeNGAeSHOeSHOQeFU REMEDYeNAePIeLOQeKOeMENeMAeMAQ",
       "eTEUeKIeMONeTENeFAQeGHOMdF KAeUeKUeEEeREEeTAEeNYIeLAeRIIeRIEEeMEEEEeTAAeNDAAeNJAEMeM",
       "eSUUeSHIIeSIeSEUXeKYEEeKETeNUAEeNUeNJUAEeYOQeSHUeYAeNSHAePEUXeNTEEeWUEePEEeRUeNIeREUX",
       "eKENeNGKWAENeNGGAeSHOePUAEeFOMeWAeLIeLOQeKOeMBENeRENeMAeMOeMBAAeTETeKPAeSAMBAeVUEQ"]⟩,
    ⟨0x16A40,
      ["aMRO LETTER TAcNGIcYOcMIMcBAcDAcAcPHIcKHAIcHAOcDAIcCHUcKEAAEcOLcMAEMcNINcPAcOOcOcRO",
       "cSHIcTHEAcEAcWAcEcKOcLANcLAcHAIcRIcTEK"]⟩,
    ⟨0x16A60, ["aMRO DIGIT ZEROcONEcTWOcTHREEcFOURcFIVEcSIXcSEVENcEIGHTcNINE"]⟩,
    ⟨0x16A6E,
      ["aMRO DANDAbDOUBLE DANDAaTANGSA LETTER OZcOCcOQcOXcAZcACcAQcAXcVZcVCcVQcVXcEZcECcEQcEX",
       "cIZcICcIQcIXcUZcUCcUQcUXcAWZcAWCcAWQcAWXcUIZcUICcUIQcUIXcFINAL NGcLONG UEXcSHORT UEZ",
       "dAWXcUECcUEZcUEQcUEXcUIUZcUIUCcUIUQcUIUXcMZcMCcMQcMXcKAcKHAcGAcNGAcSAcYAcWAcPAcNYA",
       "cPHAcBAcMAcNAcHAcLAcHTAcTAcDAcRAcNHAcSHAcCAcTSAcGHAcHTTAcTHAcXAcFAcDHAcCHAcZA"]⟩,
    ⟨0x16AC0, ["aTANGSA DIGIT ZEROcONEcTWOcTHREEcFOURcFIVEcSIXcSEVENcEIGHTcNINE"]⟩,
    ⟨0x16AD0,
      ["aBASSA VAH LETTER ENNIdKAdSEdFAdMBEdYIEdGAHdDHIIdKPAHdJOdHWAHdWAdZOdGBUdDOdCEdUWUdTO",
       "dBAdVUdYEINdPAdWADDAdAdOdOOdUdEEdEdI"]⟩,
    ⟨0x16AF0,
      ["aBASSA VAH COMBINING HIGH TONEdLOW TONEdMID TONEdLOW-MID TONEdHIGH-LOW TONEcFULL STOP"]⟩,
    ⟨0x16B00,
      ["aPAHAWH HMONG VOWEL KEEBdKEEVdKIBdKIVdKAUBdKAUVdKUBdKUVdKEBdKEVdKAIBdKAIVdKOOBdKOOV",
       "dKAWBdKAWVdKUABdKUAVdKOBdKOVdKIABdKIAVdKABdKAVdKWBdKWVdKAABdKAAVcCONSONANT VAUdNTSAU",
       "dLAUdHAUdNLAUdRAUdNKAUdQHAUdYAUdHLAUdMAUdCHAUdNCHAUdHNAUdPLHAUdNTHAUdNAUdAUdXAUdCAU",
       "cMARK CIM TUBeSOeKESeKHAVeSUAMeHOMeTAUMcSIGN VOS THOMeTSHAB CEEBdCIM CHEEMdVOS THIAB",
       "eFEEMdXYEEM NTXIVeRHOeTOVeFAIBdVOS SEEVdMEEJ SUABdVOS NRUAdIB YAMdXAUSdCIM TSOV ROG"]⟩,
    ⟨0x16B50, ["aPAHAWH HMONG DIGIT ZEROdONEdTWOdTHREEdFOURdFIVEdSIXdSEVENdEIGHTdNINE"]⟩,
    ⟨0x16B5B,
      ["aPAHAWH HMONG NUMBER TENSdHUNDREDSdTEN THOUSANDSdMILLIONSdHUNDRED MILLIONS",
       "dTEN BILLIONSdTRILLIONS"]⟩,
    ⟨0x16B63,
      ["aPAHAWH HMONG SIGN VOS LUBdXYOOdHLIdTHIRD-STAGE HLIdZWJ THAJdHNUBdNQIGdXIABdNTUJdAV",
       "dTXHEEJ CEEVdMEEJ TSEEBdTAUdLOSdMUSdCIM HAIS LUS NTOG NTOGeCUAM TSHOOJeTXWVeTXWV CHWV",
       "ePUB DAWBeNRES TOS"]⟩,
    ⟨0x16B7D,
      ["aPAHAWH HMONG CLAN SIGN TSHEEJeYEEGeLISeLAUJeXYOOJeKOOeHAWJeMUASeTHOJeTSABePHABeKHAB",
       "eHAMeVAJeFAJeYAJeTSWBeKWMeVWJ"]⟩,
    ⟨0x16E40,
      ["aMEDEFAIDRIN CAPITAL LETTER MdSdVdWdATIUdZdKPdPdTdGdFdIdKdAdJdEdBdCdUdYUdLdQdHPdNYdX",
       "dDdOEdNdRdOdAIdYbSMALL LETTER MdSdVdWdATIUdZdKPdPdTdGdFdIdKdAdJdEdBdCdUdYUdLdQdHPdNY",
       "dXdDdOEdNdRdOdAIdYbDIGIT ZEROcONEcTWOcTHREEcFOURcFIVEcSIXcSEVENcEIGHTcNINEbNUMBER TEN",
       "cELEVENcTWELVEcTHIRTEENcFOURTEENcFIFTEENcSIXTEENcSEVENTEENcEIGHTEENcNINETEEN",
       "bDIGIT ONE ALTERNATE FORMcTWO ALTERNATE FORMcTHREE ALTERNATE FORMbCOMMAbFULL STOP",
       "bSYMBOL AIVAbEXCLAMATION OH"]⟩,
    ⟨0x16F00,
      ["aMIAO LETTER PAcBAcYI PAcPLAcMAcMHAcARCHAIC MAcFAcVAcVFAcTAcDAcYI TTAdTAcTTAcDDAcNA",
       "cNHAcYI NNAcARCHAIC NAcNNAcNNHAcLAcLYAcLHAcLHYAcTLHAcDLHAcTLHYAcDLHYAcKAcGAcYI KAcQA",
       "cQGAcNGAcNGHAcARCHAIC NGAcHAcXAcGHAcGHHAcTSSAcDZZAcNYAcNYHAcTSHAcDZHAcYI TSHAdDZHA",
       "cREFORMED TSHAcSHAcSSAcZHAcZSHAcTSAcDZAcYI TSAcSAcZAcZSAcZZAcZZSAcARCHAIC ZZAcZZYA",
       "cZZSYAcWAcAHcHHAcBRIcSYIcDZYIcTEcTSEcRTE"]⟩,
    ⟨0x16F4F,
      ["aMIAO SIGN CONSONANT MODIFIER BARbLETTER NASALIZATIONbSIGN ASPIRATION",
       "cREFORMED VOICINGdASPIRATIONbVOWEL SIGN AdAAdAHHdANdANGdOdOOdWOdWdEdENdENGdOEYdIdIA",
       "dIANdIANGdIOdIEdIIdIUdINGdUdUAdUANdUANGdUUdUEIdUNGdYdYIdAEdAEEdERRdROUNDED ERRdER",
       "dROUNDED ERdAIdEIdAUdOUdNdNGdUOGdYUIdOGdOERdVWdIGdEAdIONGdUI"]⟩,
    ⟨0x16F8F,
      ["aMIAO TONE RIGHTcTOP RIGHTcABOVEcBELOWbLETTER TONE-2d3d4d5d6d7d8cREFORMED TONE-1e2e4",
       "e5e6e8"]⟩,
    ⟨0x16FE0,
      ["aTANGUT ITERATION MARKaNUSHU ITERATION MARKaOLD CHINESE HOOK MARKcITERATION MARK",
       "aKHITAN SMALL SCRIPT FILLER"]⟩,
    ⟨0x16FF0, ["aVIETNAMESE ALTERNATE READING MARK CAeNHAY"]⟩,
    ⟨0x18800,
      ["aTANGUT COMPONENT-001c002c003c004c005c006c007c008c009c010c011c012c013c014c015c016c017",
       "c018c019c020c021c022c023c024c025c026c027c028c029c030c031c032c033c034c035c036c037c038",
       "c039c040c041c042c043c044c045c046c047c048c049c050c051c052c053c054c055c056c057c058c059",
       "c060c061c062c063c064c065c066c067c068c069c070c071c072c073c074c075c076c077c078c079c080",
       "c081c082c083c084c085c086c087c088c089c090c091c092c093c094c095c096c097c098c099c100c101",
       "c102c103c104c105c106c107c108c109c110c111c112c113c114c115c116c117c118c119c120c121c122",
       "c123c124c125c126c127c128c129c130c131c132c133c134c135c136c137c138c139c140c141c142c143",
       "c144c145c146c147c148c149c150c151c152c153c154c155c156c157c158c159c160c161c162c163c164",
       "c165c166c167c168c169c170c171c172c173c174c175c176c177c178c179c180c181c182c183c184c185",
       "c186c187c188c189c190c191c192c193c194c195c196c197c198c199c200c201c202c203c204c205c206",
       "c207c208c209c210c211c212c213c214c215c216c217c218c219c220c221c222c223c224c225c226c227",
       "c228c229c230c231c232c233c234c235c236c237c238c239c240c241c242c243c244c245c246c247c248",
       "c249c250c251c252c253c254c255c256c257c258c259c260c261c262c263c264c265c266c267c268c269",
       "c270c271c272c273c274c275c276c277c278c279c280c281c282c283c284c285c286c287c288c289c290",
       "c291c292c293c294c295c296c297c298c299c300c301c302c303c304c305c306c307c308c309c310c311",
       "c312c313c314c315c316c317c318c319c320c321c322c323c324c325c326c327c328c329c330c331c332",
       "c333c334c335c336c337c338c339c340c341c342c343c344c345c346c347c348c349c350c351c352c353",
       "c354c355c356c357c358c359c360c361c362c363c364c365c366c367c368c369c370c371c372c373c374",
       "c375c376c377c378c379c380c381c382c383c384c385c386c387c388c389c390c391c392c393c394c395",
       "c396c397c398c399c400c401c402c403c404c405c406c407c408c409c410c411c412c413c414c415c416",
       "c417c418c419c420c421c422c423c424c425c426c427c428c429c430c431c432c433c434c435c436c437",
       "c438c439c440c441c442c443c444c445c446c447c448c449c450c451c452c453c454c455c456c457c458",
       "c459c460c461c462c463c464c465c466c467c468c469c470c471c472c473c474c475c476c477c478c479",
       "c480c481c482c483c484c485c486c487c488c489c490c491c492c493c494c495c496c497c498c499c500",
       "c501c502c503c504c505c506c507c508c509c510c511c512c513c514c515c516c517c518c519c520c521",
       "c522c523c524c525c526c527c528c529c530c531c532c533c534c535c536c537c538c539c540c541c542",
       "c543c544c545c546c547c548c549c550c551c552c553c554c555c556c557c558c559c560c561c562c563",
       "c564c565c566c567c568c569c570c571c572c573c574c575c576c577c578c579c580c581c582c583c584",
       "c585c586c587c588c589c590c591c592c593c594c595c596c597c598c599c600c601c602c603c604c605",
       "c606c607c608c609c610c611c612c613c614c615c616c617c618c619c620c621c622c623c624c625c626",
       "c627c628c629c630c631c632c633c634c635c636c637c638c639c640c641c642c643c644c645c646c647",
       "c648c649c650c651c652c653c654c655c656c657c658c659c660c661c662c663c664c665c666c667c668",
       "c669c670c671c672c673c674c675c676c677c678c679c680c681c682c683c684c685c686c687c688c689",
       "c690c691c692c693c694c695c696c697c698c699c700c701c702c703c704c705c706c707c708c709c710",
       "c711c712c713c714c715c716c717c718c719c720c721c722c723c724c725c726c727c728c729c730c731",
       "c732c733c734c735c736c737c738c739c740c741c742c743c744c745c746c747c748c749c750c751c752",
       "c753c754c755c756c757c758c759c760c761c762c763c764c765c766c767c768"]⟩,
    ⟨0x1AFF0, ["aKATAKANA LETTER MINNAN TONE-2e3e4e5"]⟩,
    ⟨0x1AFF5, ["aKATAKANA LETTER MINNAN TONE-7e8dNASALIZED TONE-1f2f3f4f5"]⟩,
    ⟨0x1AFFD, ["aKATAKANA LETTER MINNAN NASALIZED TONE-7f8"]⟩,
    ⟨0x1B000,
      ["aKATAKANA LETTER ARCHAIC EaHIRAGANA LETTER ARCHAIC YEaHENTAIGANA LETTER A-1d2d3dWO",
       "cI-1d2d3d4cU-1d2d3d4d5cE-2d3d4d5d6cO-1d2d3cKA-1d2d3d4d5d6d7d8d9d10d11dKEcKI-1d2d3d4d5",
       "d6d7d8cKU-1d2d3d4d5d6d7cKE-1d2d3d4d5d6cKO-1d2d3dKIcSA-1d2d3d4d5d6d7d8cSI-1d2d3d4d5d6",
       "cSU-1d2d3d4d5d6d7d8cSE-1d2d3d4d5cSO-1d2d3d4d5d6d7cTA-1d2d3d4cTI-1d2d3d4d5d6d7cTU-1d2",
       "d3d4dTOcTE-1d2d3d4d5d6d7d8d9cTO-1d2d3d4d5d6dRAcNA-1d2d3d4d5d6d7d8d9cNI-1d2d3d4d5d6d7",
       "dTEcNU-1d2d3cNE-1d2d3d4d5d6dKOcNO-1d2d3d4d5cHA-1d2d3d4d5d6d7d8d9d10d11cHI-1d2d3d4d5d6",
       "d7cHU-1d2d3cHE-1d2d3d4d5d6d7cHO-1d2d3d4d5d6d7d8cMA-1d2d3d4d5d6d7cMI-1d2d3d4d5d6d7",
       "cMU-1d2d3d4cME-1d2dMAcMO-1d2d3d4d5d6cYA-1d2d3d4d5dYOcYU-1d2d3d4cYO-1d2d3d4d5d6cRA-1d2",
       "d3d4cRI-1d2d3d4d5d6d7cRU-1d2d3d4d5d6cRE-1d2d3d4cRO-1d2d3d4d5d6cWA-1d2d3d4d5cWI-1d2d3",
       "d4d5cWE-1d2d3d4cWO-1d2d3d4d5d6d7cN-MU-MO-1f2aHIRAGANA LETTER ARCHAIC WU",
       "aKATAKANA LETTER ARCHAIC YIdYEdWU"]⟩,
    ⟨0x1B150, ["aHIRAGANA LETTER SMALL WIdWEdWO"]⟩,
    ⟨0x1B164, ["aKATAKANA LETTER SMALL WIdWEdWOdN"]⟩,
    ⟨0x1BC00,
      ["aDUPLOYAN LETTER HcXcPcTcFcKcLcBcDcVcGcRcP NcD ScF NcK McR ScTHcSLOAN DHcDHcKK",
       "cSLOAN JcHLcLHcRHcMcNcJcScM NcN McJ McS JcM WITH DOTcN WITH DOTcJ WITH DOT",
       "eDOTS INSIDE AND ABOVEcS WITH DOTeDOT BELOWcM ScN ScJ ScS ScM N ScN M ScJ M ScS J S",
       "cJ S WITH DOTdNdN ScS TdT RdPdP RcT SdR ScWcWHcW RcS NdMcK R ScG R ScS KdK RcA",
       "cSLOAN OWcOAcOcAOUcIcEcIEcSHORT IcUIcEEcSLOAN EHcROMANIAN IcSLOAN EEcLONG IcYEcUcEU",
       "cXWcU NcLONG UcROMANIAN UcUHcSLOAN UcOOHcOWcOUcWAcWOcWIcWEIcWOWcNASAL UdOdIdA",
       "cPERNIN ANdAMcSLOAN ENdANdONcVOCALIC M"]⟩,
    ⟨0x1BC70,
      ["aDUPLOYAN AFFIX LEFT HORIZONTAL SECANTcMID HORIZONTAL SECANTcRIGHT HORIZONTAL SECANT",
       "cLOW VERTICAL SECANTcMID VERTICAL SECANTcHIGH VERTICAL SECANTcATTACHED SECANT",
       "dLEFT-TO-RIGHT SECANTdTANGENTdTAILdE HOOKdI HOOKdTANGENT HOOK"]⟩,
    ⟨0x1BC80,
      ["aDUPLOYAN AFFIX HIGH ACUTEdTIGHT ACUTEdGRAVEdLONG GRAVEdDOTdCIRCLEdLINEdWAVEdVERTICAL"]⟩,
    ⟨0x1BC90,
      ["aDUPLOYAN AFFIX LOW ACUTEdTIGHT ACUTEdGRAVEdLONG GRAVEdDOTdCIRCLEdLINEdWAVEdVERTICAL",
       "dARROW"]⟩,
    ⟨0x1BC9C,
      ["aDUPLOYAN SIGN O WITH CROSSbTHICK LETTER SELECTORbDOUBLE MARK",
       "bPUNCTUATION CHINOOK FULL STOPaSHORTHAND FORMAT LETTER OVERLAPcCONTINUING OVERLAP",
       "cDOWN STEPcUP STEP"]⟩,
    ⟨0x1CF00,
      ["aZNAMENNY COMBINING MARK GORAZDO NIZKO S KRYZHEM ON LEFTdNIZKO S KRYZHEM ON LEFT",
       "dTSATA ON LEFTdGORAZDO NIZKO ON LEFTdNIZKO ON LEFTdSREDNE ON LEFT",
       "dMALO POVYSHE ON LEFTdPOVYSHE ON LEFTdVYSOKO ON LEFTdMALO POVYSHE S KHOKHLOM ON LEFT",
       "dPOVYSHE S KHOKHLOM ON LEFTdVYSOKO S KHOKHLOM ON LEFT",
       "dGORAZDO NIZKO S KRYZHEM ON RIGHTdNIZKO S KRYZHEM ON RIGHTdTSATA ON RIGHT",
       "dGORAZDO NIZKO ON RIGHTdNIZKO ON RIGHTdSREDNE ON RIGHTdMALO POVYSHE ON RIGHT",
       "dPOVYSHE ON RIGHTdVYSOKO ON RIGHTdMALO POVYSHE S KHOKHLOM ON RIGHT",
       "dPOVYSHE S KHOKHLOM ON RIGHTdVYSOKO S KHOKHLOM ON RIGHTdTSATA S KRYZHEM",
       "dMALO POVYSHE S KRYZHEMdSTRANNO MALO POVYSHEdPOVYSHE S KRYZHEMeSTRANNO",
       "dVYSOKO S KRYZHEMdMALO POVYSHE STRANNOdGORAZDO VYSOKOdZELOdONdRAVNOdTIKHAYAdBORZAYA",
       "dUDARKAdPODVERTKAdLOMKAdKUPNAYAdKACHKAdZEVOKdSKOBAdRAZSEKAdKRYZH ON LEFT"]⟩,
    ⟨0x1CF30,
      ["aZNAMENNY COMBINING TONAL RANGE MARK MRACHNOfSVETLOfTRESVETLOcMARK ZADERZHKA",
       "dDEMESTVENNY ZADERZHKAdOTSECHKAdPODCHASHIEdPODCHASHIE WITH VERTICAL STROKEdCHASHKA",
       "dCHASHKA POLNAYAdOBLACHKOdSOROCHYA NOZHKAdTOCHKAdDVOETOCHIEcATTACHING VERTICAL OMET",
       "cMARK CURVED OMETdKRYZHcLOWER TONAL RANGE INDICATORbPRIZNAK MODIFIER LEVEL-2e3",
       "dDIRECTION FLIPdKRYZHdROG"]⟩,
    ⟨0x1CF50,
      ["aZNAMENNY NEUME KRYUKcKRYUK TIKHYcPARAKLITcDVA V CHELNUcKLYUCHcZANOZHEKcSTOPITSA",
       "cSTOPITSA S OCHKOMcPEREVODKAcPEREVODKA NEPOSTOYANNAYAcSTOPITSA WITH SOROCHYA NOZHKA",
       "cCHELYUSTKAcPALKAcZAPYATAYAcGOLUBCHIK BORZYdTIKHYdMRACHNYdSVETLYdTRESVETLY",
       "cVRAKHIYA PROSTAYAdMRACHNAYAdSVETLAYAdTRESVETLAYAdKLYUCHEVAYA PROSTAYAeMRACHNAYA",
       "eSVETLAYAeTRESVETLAYAcDOUBLE ZAPYATAYAcREVERSED CHELYUSTKAcDERBITSAcKHAMILOcCHASHKA",
       "cPODCHASHIEcSKAMEYTSA MRACHNAYAdSVETLAYAdTRESVETLAYAdTIKHAYAcDEMESTVENNY KLYUCH",
       "cSKAMEYTSA KLYUCHEVAYA SVETLAYAdKLYUCHENEPOSTOYANNAYAdKLYUCHEVAYA TIKHAYA",
       "dDVOECHELNAYA PROSTAYAeSVETLAYAeNEPOSTOYANNAYAeKLYUCHEVAYAcSLOZHITIE",
       "cSLOZHITIE S ZAPYATOYdZAKRYTOEdS KRYZHEMcKRYZHcROGcFITAcKOBYLAcZMEYTSAcSTATYA",
       "cSTATYA S ZAPYATOYeKRYZHEMeZAPYATOY I KRYZHEMeKRYZHEM I ZAPYATOYdZAKRYTAYA",
       "dZAKRYTAYA S ZAPYATOYdS ROGOMeDVUMYA ZAPYATYMIeZAPYATOY I PODCHASHIEMcPOLKULIZMY",
       "cSTATYA NEPOSTOYANNAYAcSTRELA PROSTAYAdMRACHNOTIKHAYAdKRYZHEVAYAdPOLUPOVODNAYA",
       "dPOVODNAYAdNEPOSTOYANNAYAdKLYUCHEPOVODNAYAdKLYUCHENEPOSTOYANNAYAdTIKHAYA PUTNAYA",
       "dDVOECHELNAYAdDVOECHELNOKRYZHEVAYAdDVOECHELNOPOVODNAYAdDVOECHELNAYA KLYUCHEVAYA",
       "dDVOECHELNOPOVODNAYA KLYUCHEVAYAdGROMNAYA WITH SINGLE ZAPYATAYA",
       "dGROMOPOVODNAYA WITH SINGLE ZAPYATAYAdGROMNAYAdGROMOPOVODNAYA",
       "dGROMOPOVODNAYA WITH DOUBLE ZAPYATAYAdGROMOKRYZHEVAYAdGROMOKRYZHEVAYA POVODNAYA",
       "cMECHIKcMECHIK POVODNYdKLYUCHEVOYdKLYUCHEPOVODNYdKLYUCHENEPOSTOYANNY",
       "cSTRELA TRYASOGLASNAYAdTRYASOPOVODNAYAdTRYASOSTRELNAYAcOSOKAcOSOKA SVETLAYA",
       "dTRESVETLAYAdKRYUKOVAYA SVETLAYAdKLYUCHEVAYA SVETLAYAeNEPOSTOYANNAYA",
       "cSTRELA KRYUKOVAYAdKRYUKOVAYA POVODNAYAeGROMNAYA WITH SINGLE ZAPYATAYA",
       "eGROMOPOVODNAYA WITH SINGLE ZAPYATAYAeGROMNAYAeGROMOPOVODNAYA",
       "eGROMOPOVODNAYA WITH DOUBLE ZAPYATAYAeGROMOKRYZHEVAYAeGROMOKRYZHEVAYA POVODNAYA",
       "eTRYASKAcKUFISMAcOBLAKOcDUDAcNEMKAcPAUK"]⟩ ]

end Text

end GradleMigration
