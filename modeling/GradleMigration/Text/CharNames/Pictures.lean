import GradleMigration.Text.NameRun

/-
  The names of the musical and mathematical signs, and pictures, from U+1D000.

  Key definitions include:
    * `pictureNames`

  Ideographs and syllables whose names follow a rule are left
  out.
-/

------------------------------------------------------------
-- The Table
------------------------------------------------------------

namespace GradleMigration

namespace Text

/- The names, as runs in increasing order. -/
def pictureNames : List NameRun :=
  [ ⟨0x1D000,
      ["aBYZANTINE MUSICAL SYMBOL PSILIdDASEIAdPERISPOMENIdOXEIA EKFONITIKONeDIPLI",
       "dVAREIA EKFONITIKONeDIPLIdKATHISTIdSYRMATIKIdPARAKLITIKIdYPOKRISISdYPOKRISIS DIPLI",
       "dKREMASTIdAPESO EKFONITIKONdEXO EKFONITIKONdTELEIAdKENTIMATAdAPOSTROFOS",
       "dAPOSTROFOS DIPLIdSYNEVMAdTHITAdOLIGON ARCHAIONdGORGON ARCHAIONdPSILONdCHAMILONdVATHY",
       "dISON ARCHAIONdKENTIMA ARCHAIONdKENTIMATA ARCHAIONdSAXIMATAdPARICHONdSTAVROS APODEXIA",
       "dOXEIAI ARCHAIONdVAREIAI ARCHAIONdAPODERMA ARCHAIONdAPOTHEMAdKLASMAdREVMA",
       "dPIASMA ARCHAIONdTINAGMAdANATRICHISMAdSEISMAdSYNAGMA ARCHAIONeMETA STAVROU",
       "dOYRANISMA ARCHAIONdTHEMAdLEMOIdDYOdTRIAdTESSERAdKRATIMATAdAPESO EXO NEO",
       "dFTHORA ARCHAIONdIMIFTHORAdTROMIKON ARCHAIONdKATAVA TROMIKONdPELASTONdPSIFISTON",
       "dKONTEVMAdCHOREVMA ARCHAIONdRAPISMAdPARAKALESMA ARCHAIONdPARAKLITIKI ARCHAIONdICHADIN",
       "dNANAdPETASMAdKONTEVMA ALLOdTROMIKON ALLOdSTRAGGISMATAdGRONTHISMATAdISON NEO",
       "dOLIGON NEOdOXEIA NEOdPETASTIdKOUFISMAdPETASTOKOUFISMAdKRATIMOKOUFISMAdPELASTON NEO",
       "dKENTIMATA NEO ANOdKENTIMA NEO ANOdYPSILIdAPOSTROFOS NEOdAPOSTROFOI SYNDESMOS NEO",
       "dYPORROIdKRATIMOYPORROONdELAFRONdCHAMILIdMIKRON ISONdVAREIA NEOdPIASMA NEO",
       "dPSIFISTON NEOdOMALONdANTIKENOMAdLYGISMAdPARAKLITIKI NEOdPARAKALESMA NEO",
       "dETERON PARAKALESMAdKYLISMAdANTIKENOKYLISMAdTROMIKON NEOdEKSTREPTONdSYNAGMA NEOdSYRMA",
       "dCHOREVMA NEOdEPEGERMAdSEISMA NEOdXIRON KLASMAdTROMIKOPSIFISTONdPSIFISTOLYGISMA",
       "dTROMIKOLYGISMAdTROMIKOPARAKALESMAdPSIFISTOPARAKALESMAdTROMIKOSYNAGMAdPSIFISTOSYNAGMA",
       "dGORGOSYNTHETONdARGOSYNTHETONdETERON ARGOSYNTHETONdOYRANISMA NEOdTHEMATISMOS ESOeEXO",
       "dTHEMA APLOUNdTHES KAI APOTHESdKATAVASMAdENDOFONONdYFEN KATOeANOdSTAVROSdKLASMA ANO",
       "dDIPLI ARCHAIONdKRATIMA ARCHAIONeALLOeNEOdAPODERMA NEOdAPLIdDIPLIdTRIPLIdTETRAPLI",
       "dKORONISdLEIMMA ENOS CHRONOUeDYO CHRONONeTRION CHRONONeTESSARON CHRONON",
       "eIMISEOS CHRONOUdGORGON NEO ANOePARESTIGMENON ARISTERAfDEXIAdDIGORGON",
       "dDIGORGON PARESTIGMENON ARISTERA KATOgANOfDEXIAdTRIGORGONdARGONdIMIDIARGONdDIARGON",
       "dAGOGI POLI ARGIeARGOTERIeARGIeMETRIAeMESIeGORGIeGORGOTERIePOLI GORGI",
       "dMARTYRIA PROTOS ICHOSeALLI PROTOS ICHOSeDEYTEROS ICHOSeALLI DEYTEROS ICHOS",
       "eTRITOS ICHOSeTRIFONIASeTETARTOS ICHOSfLEGETOS ICHOSeLEGETOS ICHOSePLAGIOS ICHOS",
       "dISAKIA TELOUS ICHIMATOSdAPOSTROFOI TELOUS ICHIMATOSdFANEROSIS TETRAFONIASeMONOFONIAS",
       "eDIFONIASdMARTYRIA VARYS ICHOSePROTOVARYS ICHOSePLAGIOS TETARTOS ICHOS",
       "dGORTHMIKON N APLOUNfDIPLOUNdENARXIS KAI FTHORA VOUdIMIFONONdIMIFTHORON",
       "dFTHORA ARCHAION DEYTEROU ICHOUeDIATONIKI PAfNANAeNAOS ICHOSeDIATONIKI DI",
       "eSKLIRON DIATONON DIeDIATONIKI KEfZOfNI KATOgANOeMALAKON CHROMA DIFONIASgMONOFONIAS",
       "dFHTORA SKLIRON CHROMA VASISdFTHORA SKLIRON CHROMA SYNAFIeNENANOdCHROA ZYGOSeKLITON",
       "eSPATHIdFTHORA I YFESIS TETARTIMORIONeENARMONIOS ANTIFONIAdYFESIS TRITIMORION",
       "dDIESIS TRITIMORIONeTETARTIMORIONeAPLI DYO DODEKATAeMONOGRAMMOS TESSERA DODEKATA",
       "eDIGRAMMOS EX DODEKATAeTRIGRAMMOS OKTO DODEKATAdYFESIS APLI DYO DODEKATA",
       "eMONOGRAMMOS TESSERA DODEKATAeDIGRAMMOS EX DODEKATAeTRIGRAMMOS OKTO DODEKATA",
       "dGENIKI DIESISeYFESISdDIASTOLI APLI MIKRIfMEGALIeDIPLIeTHESEOSdSIMANSIS THESEOS",
       "eTHESEOS DISIMOUfTRISIMOUfTETRASIMOUeARSEOSeARSEOS DISIMOUfTRISIMOUfTETRASIMOU",
       "dDIGRAMMA GGdDIFTOGGOS OUdSTIGMAdARKTIKO PAeVOUeGAeDIeKEeZOeNIdKENTIMATA NEO MESO",
       "dKENTIMA NEO MESOdKENTIMATA NEO KATOdKENTIMA NEO KATOdKLASMA KATOdGORGON NEO KATO"]⟩,
    ⟨0x1D100,
      ["aMUSICAL SYMBOL SINGLE BARLINEcDOUBLE BARLINEcFINAL BARLINEcREVERSE FINAL BARLINE",
       "cDASHED BARLINEcSHORT BARLINEcLEFT REPEAT SIGNcRIGHT REPEAT SIGNcREPEAT DOTS",
       "cDAL SEGNOcDA CAPOcSEGNOcCODAcREPEATED FIGURE-1e2e3cFERMATAcFERMATA BELOWcBREATH MARK",
       "cCAESURAcBRACEcBRACKETcONE-LINE STAFFcTWO-LINE STAFFcTHREE-LINE STAFFcFOUR-LINE STAFF",
       "cFIVE-LINE STAFFcSIX-LINE STAFFdSTRING FRETBOARDcFOUR-STRING FRETBOARDcG CLEF",
       "dCLEF OTTAVA ALTAfBASSAcC CLEFcF CLEFdCLEF OTTAVA ALTAfBASSAcDRUM CLEF-1e2"]⟩,
    ⟨0x1D129,
      ["aMUSICAL SYMBOL MULTIPLE MEASURE RESTcDOUBLE SHARPdFLATcFLAT UPdDOWNcNATURAL UPdDOWN",
       "cSHARP UPdDOWNcQUARTER TONE SHARPeFLATcCOMMON TIMEcCUT TIMEcOTTAVA ALTAdBASSA",
       "cQUINDICESIMA ALTAdBASSAcMULTI RESTcWHOLE RESTcHALF RESTcQUARTER RESTcEIGHTH REST",
       "cSIXTEENTH RESTcTHIRTY-SECOND RESTcSIXTY-FOURTH RESTcONE HUNDRED TWENTY-EIGHTH REST",
       "cX NOTEHEADcPLUS NOTEHEADcCIRCLE X NOTEHEADcSQUARE NOTEHEAD WHITEeBLACK",
       "cTRIANGLE NOTEHEAD UP WHITEfBLACKeLEFT WHITEfBLACKeRIGHT WHITEfBLACKeDOWN WHITEfBLACK",
       "eUP RIGHT WHITEgBLACKcMOON NOTEHEAD WHITEeBLACKcTRIANGLE-ROUND NOTEHEAD DOWN WHITE",
       "gBLACKcPARENTHESIS NOTEHEADcVOID NOTEHEADcNOTEHEAD BLACKcNULL NOTEHEAD",
       "cCLUSTER NOTEHEAD WHITEeBLACKcBREVEcWHOLE NOTEcHALF NOTEcQUARTER NOTEcEIGHTH NOTE",
       "cSIXTEENTH NOTEcTHIRTY-SECOND NOTEcSIXTY-FOURTH NOTEcONE HUNDRED TWENTY-EIGHTH NOTE",
       "cCOMBINING STEMdSPRECHGESANG STEMdTREMOLO-1e2e3cFINGERED TREMOLO-1e2e3",
       "cCOMBINING AUGMENTATION DOTdFLAG-1e2e3e4e5cBEGIN BEAMcEND BEAMcBEGIN TIEcEND TIE",
       "cBEGIN SLURcEND SLURcBEGIN PHRASEcEND PHRASEcCOMBINING ACCENTdSTACCATOdTENUTO",
       "dSTACCATISSIMOdMARCATOdMARCATO-STACCATOdACCENT-STACCATOdLOUREcARPEGGIATO UPdDOWN",
       "cCOMBINING DOITdRIPdFLIPdSMEARdBENDdDOUBLE TONGUEdTRIPLE TONGUEcRINFORZANDOcSUBITOcZ",
       "cPIANOcMEZZOcFORTEcCRESCENDOcDECRESCENDOcGRACE NOTE SLASHeNO SLASHcTRcTURN",
       "cINVERTED TURNcTURN SLASHdUPcORNAMENT STROKE-1e2e3e4e5e6e7e8e9e10e11cHAUPTSTIMME",
       "cNEBENSTIMMEcEND OF STIMMEcDEGREE SLASHcCOMBINING DOWN BOWdUP BOWdHARMONIC",
       "dSNAP PIZZICATOcPEDAL MARKdUP MARKcHALF PEDAL MARKcGLISSANDO UPdDOWNcWITH FINGERNAILS",
       "cDAMPcDAMP ALLcMAXIMAcLONGAcBREVIScSEMIBREVIS WHITEdBLACKcMINIMAcMINIMA BLACK",
       "cSEMIMINIMA WHITEdBLACKcFUSA WHITEdBLACKcLONGA PERFECTA RESTdIMPERFECTA REST",
       "cBREVIS RESTcSEMIBREVIS RESTcMINIMA RESTcSEMIMINIMA REST",
       "cTEMPUS PERFECTUM CUM PROLATIONE PERFECTAgIMPERFECTAgPERFECTA DIMINUTION-1",
       "dIMPERFECTUM CUM PROLATIONE PERFECTAgIMPERFECTAgIMPERFECTA DIMINUTION-1i2i3cCROIX",
       "cGREGORIAN C CLEFdF CLEFcSQUARE BcVIRGAcPODATUScCLIVIScSCANDICUScCLIMACUScTORCULUS",
       "cPORRECTUScPORRECTUS FLEXUScSCANDICUS FLEXUScTORCULUS RESUPINUScPES SUBPUNCTIS",
       "cKIEVAN C CLEFdEND OF PIECEdFINAL NOTEdRECITATIVE MARKdWHOLE NOTEdHALF NOTE",
       "dQUARTER NOTE STEM DOWNgUPdEIGHTH NOTE STEM DOWNgUPdFLAT SIGNcSORIcKORON"]⟩,
    ⟨0x1D200,
      ["aGREEK VOCAL NOTATION SYMBOL-1e2e3e4e5e6e7e8e9e10e11e12e13e14e15e16e17e18e19e20e21e22",
       "e23e24e50e51e52e53e54bINSTRUMENTAL NOTATION SYMBOL-1e2e4e5e7e8e11e12e13e14e17e18e19",
       "e23e24e25e26e27e29e30e32e36e37e38e39e40e42e43e45e47e48e49e50e51e52e53e54",
       "aCOMBINING GREEK MUSICAL TRISEMEdTETRASEMEdPENTASEMEaGREEK MUSICAL LEIMMA"]⟩,
    ⟨0x1D2E0,
      ["aMAYAN NUMERAL ZEROcONEcTWOcTHREEcFOURcFIVEcSIXcSEVENcEIGHTcNINEcTENcELEVENcTWELVE",
       "cTHIRTEENcFOURTEENcFIFTEENcSIXTEENcSEVENTEENcEIGHTEENcNINETEEN"]⟩,
    ⟨0x1D300,
      ["aMONOGRAM FOR EARTHaDIGRAM FOR HEAVENLY EARTHcHUMAN EARTHcEARTHLY HEAVENdHUMANcEARTH",
       "aTETRAGRAM FOR CENTREcFULL CIRCLEcMIREDcBARRIERcKEEPING SMALLcCONTRARIETYcASCENT",
       "cOPPOSITIONcBRANCHING OUTcDEFECTIVENESS OR DISTORTIONcDIVERGENCEcYOUTHFULNESS",
       "cINCREASEcPENETRATIONcREACHcCONTACTcHOLDING BACKcWAITINGcFOLLOWINGcADVANCEcRELEASE",
       "cRESISTANCEcEASEcJOYcCONTENTIONcENDEAVOURcDUTIEScCHANGEcDECISIVENESScBOLD RESOLUTION",
       "cPACKINGcLEGIONcCLOSENESScKINSHIPcGATHERINGcSTRENGTHcPURITYcFULLNESScRESIDENCE",
       "cLAW OR MODELcRESPONSEcGOING TO MEETcENCOUNTERScSTOVEcGREATNESScENLARGEMENTcPATTERN",
       "cRITUALcFLIGHTcVASTNESS OR WASTINGcCONSTANCYcMEASUREcETERNITYcUNITYcDIMINISHMENT",
       "cCLOSED MOUTHcGUARDEDNESScGATHERING INcMASSINGcACCUMULATIONcEMBELLISHMENTcDOUBTcWATCH",
       "cSINKINGcINNERcDEPARTUREcDARKENINGcDIMMINGcEXHAUSTIONcSEVERANCEcSTOPPAGEcHARDNESS",
       "cCOMPLETIONcCLOSUREcFAILUREcAGGRAVATIONcCOMPLIANCEcON THE VERGEcDIFFICULTIES",
       "cLABOURINGcFOSTERING"]⟩,
    ⟨0x1D360,
      ["aCOUNTING ROD UNIT DIGIT ONEeTWOeTHREEeFOUReFIVEeSIXeSEVENeEIGHTeNINEcTENS DIGIT ONE",
       "eTWOeTHREEeFOUReFIVEeSIXeSEVENeEIGHTeNINEaIDEOGRAPHIC TALLY MARK ONEdTWOdTHREEdFOUR",
       "dFIVEaTALLY MARK ONEcFIVE"]⟩,
    ⟨0x1D400,
      ["aMATHEMATICAL BOLD CAPITAL AdBdCdDdEdFdGdHdIdJdKdLdMdNdOdPdQdRdSdTdUdVdWdXdYdZ",
       "cSMALL AdBdCdDdEdFdGdHdIdJdKdLdMdNdOdPdQdRdSdTdUdVdWdXdYdZbITALIC CAPITAL AdBdCdDdEdF",
       "dGdHdIdJdKdLdMdNdOdPdQdRdSdTdUdVdWdXdYdZcSMALL AdBdCdDdEdFdG"]⟩,
    ⟨0x1D456,
      ["aMATHEMATICAL ITALIC SMALL IdJdKdLdMdNdOdPdQdRdSdTdUdVdWdXdYdZbBOLD ITALIC CAPITAL A",
       "eBeCeDeEeFeGeHeIeJeKeLeMeNeOePeQeReSeTeUeVeWeXeYeZdSMALL AeBeCeDeEeFeGeHeIeJeKeLeMeN",
       "eOePeQeReSeTeUeVeWeXeYeZbSCRIPT CAPITAL A"]⟩,
    ⟨0x1D49E, ["aMATHEMATICAL SCRIPT CAPITAL CdD"]⟩,
    ⟨0x1D4A2, ["aMATHEMATICAL SCRIPT CAPITAL G"]⟩,
    ⟨0x1D4A5, ["aMATHEMATICAL SCRIPT CAPITAL JdK"]⟩,
    ⟨0x1D4A9, ["aMATHEMATICAL SCRIPT CAPITAL NdOdPdQ"]⟩,
    ⟨0x1D4AE, ["aMATHEMATICAL SCRIPT CAPITAL SdTdUdVdWdXdYdZcSMALL AdBdCdD"]⟩,
    ⟨0x1D4BB, ["aMATHEMATICAL SCRIPT SMALL F"]⟩,
    ⟨0x1D4BD, ["aMATHEMATICAL SCRIPT SMALL HdIdJdKdLdMdN"]⟩,
    ⟨0x1D4C5,
      ["aMATHEMATICAL SCRIPT SMALL PdQdRdSdTdUdVdWdXdYdZbBOLD SCRIPT CAPITAL AeBeCeDeEeFeGeH",
       "eIeJeKeLeMeNeOePeQeReSeTeUeVeWeXeYeZdSMALL AeBeCeDeEeFeGeHeIeJeKeLeMeNeOePeQeReSeTeU",
       "eVeWeXeYeZbFRAKTUR CAPITAL AdB"]⟩,
    ⟨0x1D507, ["aMATHEMATICAL FRAKTUR CAPITAL DdEdFdG"]⟩,
    ⟨0x1D50D, ["aMATHEMATICAL FRAKTUR CAPITAL JdKdLdMdNdOdPdQ"]⟩,
    ⟨0x1D516, ["aMATHEMATICAL FRAKTUR CAPITAL SdTdUdVdWdXdY"]⟩,
    ⟨0x1D51E,
      ["aMATHEMATICAL FRAKTUR SMALL AdBdCdDdEdFdGdHdIdJdKdLdMdNdOdPdQdRdSdTdUdVdWdXdYdZ",
       "bDOUBLE-STRUCK CAPITAL AeB"]⟩,
    ⟨0x1D53B, ["aMATHEMATICAL DOUBLE-STRUCK CAPITAL DeEeFeG"]⟩,
    ⟨0x1D540, ["aMATHEMATICAL DOUBLE-STRUCK CAPITAL IeJeKeLeM"]⟩,
    ⟨0x1D546, ["aMATHEMATICAL DOUBLE-STRUCK CAPITAL O"]⟩,
    ⟨0x1D54A, ["aMATHEMATICAL DOUBLE-STRUCK CAPITAL SeTeUeVeWeXeY"]⟩,
    ⟨0x1D552,
      ["aMATHEMATICAL DOUBLE-STRUCK SMALL AeBeCeDeEeFeGeHeIeJeKeLeMeNeOePeQeReSeTeUeVeWeXeYeZ",
       "bBOLD FRAKTUR CAPITAL AeBeCeDeEeFeGeHeIeJeKeLeMeNeOePeQeReSeTeUeVeWeXeYeZdSMALL AeBeC",
       "eDeEeFeGeHeIeJeKeLeMeNeOePeQeReSeTeUeVeWeXeYeZbSANS-SERIF CAPITAL AeBeCeDeEeFeGeHeIeJ",
       "eKeLeMeNeOePeQeReSeTeUeVeWeXeYeZdSMALL AeBeCeDeEeFeGeHeIeJeKeLeMeNeOePeQeReSeTeUeVeW",
       "eXeYeZdBOLD CAPITAL AfBfCfDfEfFfGfHfIfJfKfLfMfNfOfPfQfRfSfTfUfVfWfXfYfZeSMALL AfBfCfD",
       "fEfFfGfHfIfJfKfLfMfNfOfPfQfRfSfTfUfVfWfXfYfZdITALIC CAPITAL AfBfCfDfEfFfGfHfIfJfKfLfM",
       "fNfOfPfQfRfSfTfUfVfWfXfYfZeSMALL AfBfCfDfEfFfGfHfIfJfKfLfMfNfOfPfQfRfSfTfUfVfWfXfYfZ",
       "dBOLD ITALIC CAPITAL AgBgCgDgEgFgGgHgIgJgKgLgMgNgOgPgQgRgSgTgUgVgWgXgYgZfSMALL AgBgC",
       "gDgEgFgGgHgIgJgKgLgMgNgOgPgQgRgSgTgUgVgWgXgYgZbMONOSPACE CAPITAL AdBdCdDdEdFdGdHdIdJ",
       "dKdLdMdNdOdPdQdRdSdTdUdVdWdXdYdZcSMALL AdBdCdDdEdFdGdHdIdJdKdLdMdNdOdPdQdRdSdTdUdVdW",
       "dXdYdZbITALIC SMALL DOTLESS IeJ"]⟩,
    ⟨0x1D6A8,
      ["aMATHEMATICAL BOLD CAPITAL ALPHAdBETAdGAMMAdDELTAdEPSILONdZETAdETAdTHETAdIOTAdKAPPA",
       "dLAMDAdMUdNUdXIdOMICRONdPIdRHOdTHETA SYMBOLdSIGMAdTAUdUPSILONdPHIdCHIdPSIdOMEGAcNABLA",
       "cSMALL ALPHAdBETAdGAMMAdDELTAdEPSILONdZETAdETAdTHETAdIOTAdKAPPAdLAMDAdMUdNUdXI",
       "dOMICRONdPIdRHOdFINAL SIGMAdSIGMAdTAUdUPSILONdPHIdCHIdPSIdOMEGAcPARTIAL DIFFERENTIAL",
       "cEPSILON SYMBOLcTHETA SYMBOLcKAPPA SYMBOLcPHI SYMBOLcRHO SYMBOLcPI SYMBOL",
       "bITALIC CAPITAL ALPHAdBETAdGAMMAdDELTAdEPSILONdZETAdETAdTHETAdIOTAdKAPPAdLAMDAdMUdNU",
       "dXIdOMICRONdPIdRHOdTHETA SYMBOLdSIGMAdTAUdUPSILONdPHIdCHIdPSIdOMEGAcNABLAcSMALL ALPHA",
       "dBETAdGAMMAdDELTAdEPSILONdZETAdETAdTHETAdIOTAdKAPPAdLAMDAdMUdNUdXIdOMICRONdPIdRHO",
       "dFINAL SIGMAdSIGMAdTAUdUPSILONdPHIdCHIdPSIdOMEGAcPARTIAL DIFFERENTIALcEPSILON SYMBOL",
       "cTHETA SYMBOLcKAPPA SYMBOLcPHI SYMBOLcRHO SYMBOLcPI SYMBOLbBOLD ITALIC CAPITAL ALPHA",
       "eBETAeGAMMAeDELTAeEPSILONeZETAeETAeTHETAeIOTAeKAPPAeLAMDAeMUeNUeXIeOMICRONePIeRHO",
       "eTHETA SYMBOLeSIGMAeTAUeUPSILONePHIeCHIePSIeOMEGAdNABLAdSMALL ALPHAeBETAeGAMMAeDELTA",
       "eEPSILONeZETAeETAeTHETAeIOTAeKAPPAeLAMDAeMUeNUeXIeOMICRONePIeRHOeFINAL SIGMAeSIGMA",
       "eTAUeUPSILONePHIeCHIePSIeOMEGAdPARTIAL DIFFERENTIALdEPSILON SYMBOLdTHETA SYMBOL",
       "dKAPPA SYMBOLdPHI SYMBOLdRHO SYMBOLdPI SYMBOLbSANS-SERIF BOLD CAPITAL ALPHAfBETA",
       "fGAMMAfDELTAfEPSILONfZETAfETAfTHETAfIOTAfKAPPAfLAMDAfMUfNUfXIfOMICRONfPIfRHO",
       "fTHETA SYMBOLfSIGMAfTAUfUPSILONfPHIfCHIfPSIfOMEGAeNABLAeSMALL ALPHAfBETAfGAMMAfDELTA",
       "fEPSILONfZETAfETAfTHETAfIOTAfKAPPAfLAMDAfMUfNUfXIfOMICRONfPIfRHOfFINAL SIGMAfSIGMA",
       "fTAUfUPSILONfPHIfCHIfPSIfOMEGAePARTIAL DIFFERENTIALeEPSILON SYMBOLeTHETA SYMBOL",
       "eKAPPA SYMBOLePHI SYMBOLeRHO SYMBOLePI SYMBOLeITALIC CAPITAL ALPHAgBETAgGAMMAgDELTA",
       "gEPSILONgZETAgETAgTHETAgIOTAgKAPPAgLAMDAgMUgNUgXIgOMICRONgPIgRHOgTHETA SYMBOLgSIGMA",
       "gTAUgUPSILONgPHIgCHIgPSIgOMEGAfNABLAfSMALL ALPHAgBETAgGAMMAgDELTAgEPSILONgZETAgETA",
       "gTHETAgIOTAgKAPPAgLAMDAgMUgNUgXIgOMICRONgPIgRHOgFINAL SIGMAgSIGMAgTAUgUPSILONgPHIgCHI",
       "gPSIgOMEGAfPARTIAL DIFFERENTIALfEPSILON SYMBOLfTHETA SYMBOLfKAPPA SYMBOLfPHI SYMBOL",
       "fRHO SYMBOLfPI SYMBOLbBOLD CAPITAL DIGAMMAcSMALL DIGAMMA"]⟩,
    ⟨0x1D7CE,
      ["aMATHEMATICAL BOLD DIGIT ZEROdONEdTWOdTHREEdFOURdFIVEdSIXdSEVENdEIGHTdNINE",
       "bDOUBLE-STRUCK DIGIT ZEROeONEeTWOeTHREEeFOUReFIVEeSIXeSEVENeEIGHTeNINE",
       "bSANS-SERIF DIGIT ZEROeONEeTWOeTHREEeFOUReFIVEeSIXeSEVENeEIGHTeNINEdBOLD DIGIT ZERO",
       "fONEfTWOfTHREEfFOURfFIVEfSIXfSEVENfEIGHTfNINEbMONOSPACE DIGIT ZEROdONEdTWOdTHREEdFOUR",
       "dFIVEdSIXdSEVENdEIGHTdNINEaSIGNWRITING HAND-FIST INDEXcCIRCLE INDEXcCUP INDEX",
       "cOVAL INDEXcHINGE INDEXcANGLE INDEXcFIST INDEX BENTcCIRCLE INDEX BENT",
       "cFIST THUMB UNDER INDEX BENTdINDEX RAISED KNUCKLEeCUPPEDeHINGEDeHINGED LOW",
       "cCIRCLE INDEX HINGEcFIST INDEX MIDDLEcCIRCLE INDEX MIDDLEcFIST INDEX MIDDLE BENT",
       "fRAISED KNUCKLESfHINGEDeUP MIDDLE HINGEDeHINGED MIDDLE UPeMIDDLE CONJOINED",
       "fCONJOINED INDEX BENTgMIDDLE BENTgCUPPEDgHINGEDfCROSSEDcCIRCLE INDEX MIDDLE CROSSED",
       "cFIST MIDDLE BENT OVER INDEXdINDEX BENT OVER MIDDLEeMIDDLE THUMB",
       "cCIRCLE INDEX MIDDLE THUMBcFIST INDEX MIDDLE STRAIGHT THUMB BENTfBENT THUMB STRAIGHT",
       "fTHUMB BENTfHINGED SPREAD THUMB SIDEeUP MIDDLE HINGED THUMB SIDEiCONJOINED",
       "eHINGED MIDDLE UP THUMB SIDEeMIDDLE UP SPREAD THUMB FORWARDfTHUMB CUPPEDgCIRCLED",
       "gHOOKEDgHINGEDdTHUMB BETWEEN INDEX MIDDLE STRAIGHTdINDEX MIDDLE CONJOINED THUMB SIDE",
       "hSIDE CONJOINEDiBENTdMIDDLE THUMB HOOKED INDEX UPdINDEX THUMB HOOKED MIDDLE UP",
       "eMIDDLE CONJOINED HINGED THUMB SIDEfCROSSED THUMB SIDEfCONJOINED THUMB FORWARD",
       "gCUPPED THUMB FORWARDdMIDDLE THUMB CUPPED INDEX UPdINDEX THUMB CUPPED MIDDLE UP",
       "dMIDDLE THUMB CIRCLED INDEX UPhHINGEDdINDEX THUMB ANGLED OUT MIDDLE UPgIN MIDDLE UP",
       "fCIRCLED MIDDLE UPeMIDDLE THUMB CONJOINED HINGEDgANGLED OUTgANGLED",
       "dMIDDLE THUMB ANGLED OUT INDEX UPiCROSSEDgINDEX UPdINDEX THUMB HOOKED MIDDLE HINGED",
       "cFLAT FOUR FINGERSeFINGERS BENTfHINGEDfCONJOINEDfCONJOINED SPLIT",
       "cCLAW FOUR FINGERS CONJOINEDcFIST FOUR FINGERS CONJOINED BENT",
       "cHINGE FOUR FINGERS CONJOINEDcFLAT FIVE FINGERS SPREADdHEEL FIVE FINGERS SPREAD",
       "dFIVE FINGERS SPREAD FOUR BENTdHEEL FIVE FINGERS SPREAD FOUR BENT",
       "dFIVE FINGERS SPREAD BENTdHEEL FIVE FINGERS SPREAD BENT",
       "dFIVE FINGERS SPREAD THUMB FORWARDcCUP FIVE FINGERS SPREADfSPREAD OPEN",
       "cHINGE FIVE FINGERS SPREAD OPENcOVAL FIVE FINGERS SPREAD",
       "cFLAT FIVE FINGERS SPREAD HINGEDgHINGED THUMB SIDEhNO THUMBcFLAT",
       "cFLAT BETWEEN PALM FACINGSdHEELdTHUMB SIDEdHEEL THUMB SIDEdTHUMB BENTeFORWARD",
       "dSPLIT INDEX THUMB SIDEeCENTREeCENTRE THUMB SIDEgSIDE BENTeLITTLEcCLAW",
       "cCLAW THUMB SIDEdNO THUMBdTHUMB FORWARDcHOOK CURLICUEcHOOKcCUP OPENcCUP",
       "cCUP OPEN THUMB SIDEdTHUMB SIDEdOPEN NO THUMBdNO THUMBdOPEN THUMB FORWARD",
       "dTHUMB FORWARDcCURLICUE OPENcCURLICUEcCIRCLEcOVALcOVAL THUMB SIDEdNO THUMB",
       "dTHUMB FORWARDcHINGE OPENdOPEN THUMB FORWARDcHINGEcHINGE SMALLdOPEN THUMB SIDE",
       "dTHUMB SIDEdOPEN NO THUMBdNO THUMBdTHUMB SIDE TOUCHING INDEXeBETWEEN MIDDLE RING",
       "cANGLEcFIST INDEX MIDDLE RINGcCIRCLE INDEX MIDDLE RINGcHINGE INDEX MIDDLE RING",
       "cANGLE INDEX MIDDLE RINGcHINGE LITTLEcFIST INDEX MIDDLE RING BENTgCONJOINED",
       "cHINGE INDEX MIDDLE RING CONJOINEDcFIST LITTLE DOWNeDOWN RIPPLE STRAIGHTgCURVED",
       "fOTHERS CIRCLEDeUPdTHUMB UNDER LITTLE UPcCIRCLE LITTLE UPcOVAL LITTLE UP",
       "cANGLE LITTLE UPcFIST LITTLE RAISED KNUCKLEeBENTeTOUCHES THUMBeTHUMB",
       "cHINGE LITTLE THUMBcFIST LITTLE INDEX THUMBcHINGE LITTLE INDEX THUMB",
       "cANGLE LITTLE INDEX THUMB INDEX THUMB OUThTHUMBcFIST LITTLE INDEXcCIRCLE LITTLE INDEX",
       "cHINGE LITTLE INDEXcANGLE LITTLE INDEXcFIST INDEX MIDDLE LITTLE",
       "cCIRCLE INDEX MIDDLE LITTLEcHINGE INDEX MIDDLE LITTLEdRINGcANGLE INDEX MIDDLE LITTLE",
       "cFIST INDEX MIDDLE CROSS LITTLEcCIRCLE INDEX MIDDLE CROSS LITTLEcFIST RING DOWN",
       "cHINGE RING DOWN INDEX THUMB HOOK MIDDLEcANGLE RING DOWN MIDDLE THUMB INDEX CROSS",
       "cFIST RING UPeRAISED KNUCKLEeLITTLEcCIRCLE RING LITTLEcOVAL RING LITTLE",
       "cANGLE RING LITTLEcFIST RING MIDDLEeMIDDLE CONJOINEDfRAISED KNUCKLESeINDEXeTHUMB",
       "cHOOK RING THUMBcFIST INDEX RING LITTLEcCIRCLE INDEX RING LITTLE",
       "cCURLICUE INDEX RING LITTLE ONcHOOK INDEX RING LITTLE OUTgINgUNDER",
       "cCUP INDEX RING LITTLEcHINGE INDEX RING LITTLEcANGLE INDEX RING LITTLE OUTfLITTLE",
       "cFIST MIDDLE DOWNcHINGE MIDDLEcFIST MIDDLE UPcCIRCLE MIDDLE UP",
       "cFIST MIDDLE RAISED KNUCKLEeUP THUMB SIDEcHOOK MIDDLE THUMBcFIST MIDDLE THUMB LITTLE",
       "eLITTLEeRING LITTLEcCIRCLE MIDDLE RING LITTLEcCURLICUE MIDDLE RING LITTLE ON",
       "cCUP MIDDLE RING LITTLEcHINGE MIDDLE RING LITTLEcANGLE MIDDLE RING LITTLE OUTgIN",
       "fLITTLEcCIRCLE MIDDLE RING LITTLE BENTcCLAW MIDDLE RING LITTLE CONJOINED",
       "gCONJOINED SIDEcHOOK MIDDLE RING LITTLE CONJOINED OUThINgCONJOINEDcHINGE INDEX HINGED",
       "cFIST INDEX THUMB SIDEcHINGE INDEX THUMB SIDEcFIST INDEX THUMB SIDE THUMB DIAGONAL",
       "hCONJOINEDhBENTgINDEX BENTgBOTH BENTgINDEX HINGEfFORWARD INDEX STRAIGHThBENTfHOOK",
       "fCURLICUEfCURVE THUMB INSIDEcCLAW INDEX THUMB CURVE THUMB INSIDE",
       "cFIST INDEX THUMB CURVE THUMB UNDERfCIRCLEcCUP INDEX THUMBeTHUMB OPEN",
       "cHINGE INDEX THUMB OPENfLARGEeTHUMBeTHUMB SMALLcANGLE INDEX THUMB OUTfINeTHUMB",
       "cFIST THUMBdTHUMB HEELeSIDE DIAGONALfCONJOINEDfBENTeFORWARDeBETWEEN INDEX MIDDLE",
       "fMIDDLE RINGfRING LITTLEeUNDER TWO FINGERSeOVER TWO FINGERSeUNDER THREE FINGERS",
       "fFOUR FINGERSeOVER FOUR RAISED KNUCKLEScFISTcFIST HEELbTOUCH SINGLEcMULTIPLEcBETWEEN",
       "bGRASP SINGLEcMULTIPLEcBETWEENbSTRIKE SINGLEcMULTIPLEcBETWEENbBRUSH SINGLEcMULTIPLE",
       "cBETWEENbRUB SINGLEcMULTIPLEcBETWEENbSURFACE SYMBOLScBETWEENbSQUEEZE LARGE SINGLE",
       "cSMALL SINGLEcLARGE MULTIPLEcSMALL MULTIPLEcSEQUENTIALbFLICK LARGE SINGLE",
       "cSMALL SINGLEcLARGE MULTIPLEcSMALL MULTIPLEcSEQUENTIALbSQUEEZE FLICK ALTERNATING",
       "bMOVEMENT-HINGE UP DOWN LARGEfSMALLeSEQUENTIALdDOWN SEQUENTIAL",
       "dUP DOWN ALTERNATING LARGEgSMALLdSIDE TO SIDE SCISSORScWALLPLANE FINGER CONTACT",
       "cFLOORPLANE FINGER CONTACTcWALLPLANE SINGLE STRAIGHT SMALLfMEDIUMfLARGEfLARGEST",
       "eWRIST FLEXdDOUBLE STRAIGHTeWRIST FLEXeALTERNATINGeALTERNATING WRIST FLEXdCROSS",
       "dTRIPLE STRAIGHT MOVEMENTeWRIST FLEXeALTERNATINGeALTERNATING WRIST FLEXdBEND SMALL",
       "eMEDIUMeLARGEdCORNER SMALLeMEDIUMeLARGEeROTATIONdCHECK SMALLeMEDIUMeLARGEdBOX SMALL",
       "eMEDIUMeLARGEdZIGZAG SMALLeMEDIUMeLARGEdPEAKS SMALLeMEDIUMeLARGE",
       "bTRAVEL-WALLPLANE ROTATION-WALLPLANE SINGLEfDOUBLEfALTERNATINGeFLOORPLANE SINGLE",
       "fDOUBLEfALTERNATINGdSHAKINGdARM SPIRAL SINGLEfDOUBLEfTRIPLE",
       "bMOVEMENT-DIAGONAL AWAY SMALLeMEDIUMeLARGEeLARGESTdTOWARDS SMALLeMEDIUMeLARGEeLARGEST",
       "dBETWEEN AWAY SMALLfMEDIUMfLARGEfLARGESTeTOWARDS SMALLfMEDIUMfLARGEfLARGEST",
       "cFLOORPLANE SINGLE STRAIGHT SMALLfMEDIUMfLARGEfLARGESTeWRIST FLEXdDOUBLE STRAIGHT",
       "eWRIST FLEXeALTERNATINGeALTERNATING WRIST FLEXdCROSSdTRIPLE STRAIGHT MOVEMENT",
       "eWRIST FLEXeALTERNATING MOVEMENTfWRIST FLEXdBENDdCORNER SMALLeMEDIUMeLARGEdCHECK",
       "dBOX SMALLeMEDIUMeLARGEdZIGZAG SMALLeMEDIUMeLARGEdPEAKS SMALLeMEDIUMeLARGE",
       "bTRAVEL-FLOORPLANE ROTATION-FLOORPLANE SINGLEfDOUBLEfALTERNATINGeWALLPLANE SINGLE",
       "fDOUBLEfALTERNATINGdSHAKINGbMOVEMENT-WALLPLANE CURVE QUARTER SMALLfMEDIUMfLARGE",
       "fLARGESTeHALF-CIRCLE SMALLgMEDIUMgLARGEgLARGESTeTHREE-QUARTER CIRCLE SMALLhMEDIUM",
       "dHUMP SMALLeMEDIUMeLARGEdLOOP SMALLeMEDIUMeLARGEeSMALL DOUBLEdWAVE CURVE DOUBLE SMALL",
       "gMEDIUMgLARGEfTRIPLE SMALLgMEDIUMgLARGEdCURVE THEN STRAIGHTdCURVED CROSS SMALLfMEDIUM",
       "bROTATION-WALLPLANE SINGLEdDOUBLEdALTERNATEbMOVEMENT-WALLPLANE SHAKING",
       "dCURVE HITTING FRONT WALLdHUMP HITTING FRONT WALLdLOOP HITTING FRONT WALL",
       "dWAVE HITTING FRONT WALLbROTATION-WALLPLANE SINGLE HITTING FRONT WALL",
       "dDOUBLE HITTING FRONT WALLdALTERNATING HITTING FRONT WALL",
       "bMOVEMENT-WALLPLANE CURVE HITTING CHESTdHUMP HITTING CHESTdLOOP HITTING CHEST",
       "dWAVE HITTING CHESTbROTATION-WALLPLANE SINGLE HITTING CHESTdDOUBLE HITTING CHEST",
       "dALTERNATING HITTING CHESTbMOVEMENT-WALLPLANE WAVE DIAGONAL PATH SMALLgMEDIUMgLARGE",
       "cFLOORPLANE CURVE HITTING CEILING SMALLgLARGEdHUMP HITTING CEILING SMALL DOUBLE",
       "gLARGE DOUBLEgSMALL TRIPLEgLARGE TRIPLEdLOOP HITTING CEILING SMALL SINGLE",
       "gLARGE SINGLEgSMALL DOUBLEgLARGE DOUBLEdWAVE HITTING CEILING SMALLgLARGE",
       "bROTATION-FLOORPLANE SINGLE HITTING CEILINGdDOUBLE HITTING CEILING",
       "dALTERNATING HITTING CEILINGbMOVEMENT-FLOORPLANE CURVE HITTING FLOOR SMALLgLARGE",
       "dHUMP HITTING FLOOR SMALL DOUBLEgLARGE DOUBLEgTRIPLE SMALL TRIPLEhLARGE TRIPLE",
       "dLOOP HITTING FLOOR SMALL SINGLEgLARGE SINGLEgSMALL DOUBLEgLARGE DOUBLE",
       "dWAVE HITTING FLOOR SMALLgLARGEbROTATION-FLOORPLANE SINGLE HITTING FLOOR",
       "dDOUBLE HITTING FLOORdALTERNATING HITTING FLOORbMOVEMENT-FLOORPLANE CURVE SMALL",
       "eMEDIUMeLARGEeLARGESTeCOMBINEDdHUMP SMALLdLOOP SMALLdWAVE SNAKEeSMALLeLARGE",
       "bROTATION-FLOORPLANE SINGLEdDOUBLEdALTERNATINGbMOVEMENT-FLOORPLANE SHAKING PARALLEL",
       "cWALLPLANE ARM CIRCLE SMALL SINGLEfMEDIUM SINGLEfSMALL DOUBLEfMEDIUM DOUBLE",
       "cFLOORPLANE ARM CIRCLE HITTING WALL SMALL SINGLEhMEDIUM SINGLEhLARGE SINGLE",
       "hSMALL DOUBLEhMEDIUM DOUBLEhLARGE DOUBLEcWALLPLANE WRIST CIRCLE FRONT SINGLEgDOUBLE",
       "cFLOORPLANE WRIST CIRCLE HITTING WALL SINGLEhDOUBLEcWALLPLANE FINGER CIRCLES SINGLE",
       "fDOUBLEcFLOORPLANE FINGER CIRCLES HITTING WALL SINGLEhDOUBLEbDYNAMIC ARROWHEAD SMALL",
       "dLARGEcFASTcSLOWcTENSEcRELAXEDcSIMULTANEOUScSIMULTANEOUS ALTERNATINGcEVERY OTHER TIME",
       "cGRADUALbHEADbHEAD RIMcMOVEMENT-WALLPLANE STRAIGHTeTILTdFLOORPLANE STRAIGHT",
       "dWALLPLANE CURVEdFLOORPLANE CURVEcMOVEMENT CIRCLE",
       "bFACE DIRECTION POSITION NOSE FORWARD TILTINGfUP OR DOWNhDOWN TILTING",
       "bEYEBROWS STRAIGHT UPdNEUTRALdDOWNbDREAMY EYEBROWS NEUTRAL DOWNdDOWN NEUTRAL",
       "dUP NEUTRALdNEUTRAL UPbFOREHEAD NEUTRALcCONTACTcWRINKLEDbEYES OPENcSQUEEZEDcCLOSED",
       "bEYE BLINK SINGLEdMULTIPLEbEYES HALF OPENcWIDE OPENcHALF CLOSEDcWIDENING MOVEMENT",
       "bEYE WINKbEYELASHES UPcDOWNcFLUTTERINGbEYEGAZE-WALLPLANE STRAIGHTdSTRAIGHT DOUBLE",
       "eALTERNATINGcFLOORPLANE STRAIGHTdSTRAIGHT DOUBLEeALTERNATINGcWALLPLANE CURVED",
       "cFLOORPLANE CURVEDcWALLPLANE CIRCLINGbCHEEKS PUFFEDcNEUTRALcSUCKEDbTENSE CHEEKS HIGH",
       "dMIDDLEdLOWbEARSbNOSE NEUTRALcCONTACTcWRINKLEScWIGGLESbAIR BLOWING OUTcSUCKING IN",
       "cBLOW SMALL ROTATIONScSUCK SMALL ROTATIONSbBREATH INHALEcEXHALEbMOUTH CLOSED NEUTRAL",
       "dFORWARDdCONTACTcSMILEcSMILE WRINKLEDdOPENcFROWNcFROWN WRINKLEDdOPENcOPEN CIRCLE",
       "dFORWARDdWRINKLEDdOVALdOVAL WRINKLEDeYAWNdRECTANGLEdRECTANGLE WRINKLEDeYAWNcKISS",
       "cKISS FORWARDdWRINKLEDcTENSEcTENSE FORWARDdSUCKEDbLIPS PRESSED TOGETHER",
       "bLIP LOWER OVER UPPERcUPPER OVER LOWERbMOUTH CORNERScWRINKLES SINGLEdDOUBLE",
       "bTONGUE STICKING OUT FARcLICKING LIPScTIP BETWEEN LIPSdTOUCHING INSIDE MOUTH",
       "cINSIDE MOUTH RELAXEDcMOVES AGAINST CHEEKcCENTRE STICKING OUTdINSIDE MOUTHbTEETH",
       "bTEETH MOVEMENTcON TONGUEdTONGUE MOVEMENTdLIPSdLIPS MOVEMENTcBITE LIPS",
       "bMOVEMENT-WALLPLANE JAWcFLOORPLANE JAWbNECKbHAIRbEXCITEMENTbSHOULDER HIP SPINE",
       "dPOSITIONSbWALLPLANE SHOULDER HIP MOVEbFLOORPLANE SHOULDER HIP MOVE",
       "bSHOULDER TILTING FROM WAISTbTORSO-WALLPLANE STRAIGHT STRETCHdCURVED BEND",
       "cFLOORPLANE TWISTINGbUPPER BODY TILTING FROM HIP JOINTSbLIMB COMBINATIONcLENGTH-1d2d3",
       "d4d5d6d7bFINGERbLOCATION-WALLPLANE SPACEcFLOORPLANE SPACEbLOCATION HEIGHTcWIDTHcDEPTH",
       "cHEAD NECKcTORSOcLIMBS DIGITSbCOMMAbFULL STOPbSEMICOLONbCOLONbPARENTHESIS"]⟩,
    ⟨0x1DA9B, ["aSIGNWRITING FILL MODIFIER-2d3d4d5d6"]⟩,
    ⟨0x1DAA1, ["aSIGNWRITING ROTATION MODIFIER-2d3d4d5d6d7d8d9d10d11d12d13d14d15d16"]⟩,
    ⟨0x1DF00,
      ["aLATIN SMALL LETTER FENG DIGRAPH WITH TRILLdREVERSED SCRIPT G",
       "bLETTER SMALL CAPITAL TURNED GbSMALL LETTER REVERSED K",
       "bLETTER SMALL CAPITAL L WITH BELTbSMALL LETTER LEZH WITH RETROFLEX HOOK",
       "dTURNED Y WITH BELTdREVERSED ENGdTURNED R WITH LONG LEG AND RETROFLEX HOOK",
       "dT WITH HOOK AND RETROFLEX HOOKbLETTER RETROFLEX CLICK WITH RETROFLEX HOOK",
       "bSMALL LETTER ESH WITH DOUBLE BARgBAR AND CURLdTURNED T WITH CURL",
       "bLETTER INVERTED GLOTTAL STOP WITH CURLcSTRETCHED C WITH CURLcSMALL CAPITAL TURNED K",
       "bSMALL LETTER L WITH FISHHOOKdDEZH DIGRAPH WITH PALATAL HOOK",
       "dL WITH BELT AND PALATAL HOOKdENG WITH PALATAL HOOKdTURNED R WITH PALATAL HOOK",
       "dR WITH FISHHOOK AND PALATAL HOOKdTESH DIGRAPH WITH PALATAL HOOK",
       "dEZH WITH PALATAL HOOKdDEZH DIGRAPH WITH RETROFLEX HOOK",
       "dI WITH STROKE AND RETROFLEX HOOKdO WITH RETROFLEX HOOK",
       "dTESH DIGRAPH WITH RETROFLEX HOOKdC WITH RETROFLEX HOOKdS WITH CURL"]⟩,
    ⟨0x1E000, ["aCOMBINING GLAGOLITIC LETTER AZUdBUKYdVEDEdGLAGOLIdDOBROdYESTUdZHIVETE"]⟩,
    ⟨0x1E008,
      ["aCOMBINING GLAGOLITIC LETTER ZEMLJAdIZHEdINITIAL IZHEdIdDJERVIdKAKOdLJUDIJEdMYSLITE",
       "dNASHIdONUdPOKOJIdRITSIdSLOVOdTVRIDOdUKUdFRITUdHERU"]⟩,
    ⟨0x1E01B, ["aCOMBINING GLAGOLITIC LETTER SHTAdTSIdCHRIVIdSHAdYERUdYERIdYATI"]⟩,
    ⟨0x1E023, ["aCOMBINING GLAGOLITIC LETTER YUdSMALL YUS"]⟩,
    ⟨0x1E026,
      ["aCOMBINING GLAGOLITIC LETTER YOdIOTATED SMALL YUSdBIG YUSdIOTATED BIG YUSdFITA"]⟩,
    ⟨0x1E100,
      ["aNYIAKENG PUACHUE HMONG LETTER MAeTSAeNTAeTAeHAeNAeXAeNKAeCAeLAeSAeZAeNCAeNTSAeKAeDA",
       "eNYAeNRAeVAeNTXAeTXAeFAeRAeQAeYAeNQAePAeXYAeNPAeDLAeNPLAeHAHeMLAePLAeGAeRRAeAeAAeIeU",
       "eOeOOeEeEEeW"]⟩,
    ⟨0x1E130,
      ["aNYIAKENG PUACHUE HMONG TONE-BeMeJeVeSeGeDdSIGN FOR PERSONfTHINGfLOCATIONfANIMAL",
       "fINVERTEBRATEeXW XWdSYLLABLE LENGTHENER"]⟩,
    ⟨0x1E140,
      ["aNYIAKENG PUACHUE HMONG DIGIT ZEROeONEeTWOeTHREEeFOUReFIVEeSIXeSEVENeEIGHTeNINE"]⟩,
    ⟨0x1E14E, ["aNYIAKENG PUACHUE HMONG LOGOGRAM NYAJdCIRCLED CA"]⟩,
    ⟨0x1E290,
      ["aTOTO LETTER PAcBAcTAcDAcKAcGAcMAcNAcNGAcSAcCHAcYAcWAcJAcHAcRAcLAcIcBREATHY IcIU",
       "cBREATHY IUcUcEcBREATHY EcEOcBREATHY EOcOcAEcBREATHY AEcAbSIGN RISING TONE"]⟩,
    ⟨0x1E2C0,
      ["aWANCHO LETTER AAcAcBAcCAcDAcGAcYAcPHAcLAcNAcPAcTAcTHAcFAcSAcSHAcJAcZAcWAcVAcKAcOcAU",
       "cRAcMAcKHAcHAcEcIcNGAcUcLLHAcTSAcTRAcONGcAANGcANGcINGcONcENcAANcNYAcUENcYIHbTONE TUP",
       "cTUPNIcKOIcKOINIbDIGIT ZEROcONEcTWOcTHREEcFOURcFIVEcSIXcSEVENcEIGHTcNINE"]⟩,
    ⟨0x1E2FF, ["aWANCHO NGUN SIGN"]⟩,
    ⟨0x1E7E0, ["aETHIOPIC SYLLABLE HHYAcHHYUcHHYIcHHYAAcHHYEEcHHYEcHHYO"]⟩,
    ⟨0x1E7E8, ["aETHIOPIC SYLLABLE GURAGE HHWAcHHWIcHHWEEcHHWE"]⟩,
    ⟨0x1E7ED, ["aETHIOPIC SYLLABLE GURAGE MWIdMWEE"]⟩,
    ⟨0x1E7F0,
      ["aETHIOPIC SYLLABLE GURAGE QWIdQWEEdQWEdBWIdBWEEdKWIdKWEEdKWEdGWIdGWEEdGWEdFWIdFWEE",
       "dPWIdPWEE"]⟩,
    ⟨0x1E800,
      ["aMENDE KIKAKUI SYLLABLE M001 KIdM002 KAdM003 KUdM065 KEEdM095 KEdM076 KOOdM048 KO",
       "dM179 KUAdM004 WIdM005 WAdM006 WUdM126 WEEdM118 WEdM114 WOOdM045 WOdM194 WUIdM143 WEI",
       "dM061 WVIdM049 WVAdM139 WVEdM007 MINdM008 MANdM009 MUNdM059 MENdM094 MONdM154 MUAN",
       "dM189 MUENdM010 BIdM011 BAdM012 BUdM150 BEEdM097 BEdM103 BOOdM138 BOdM013 IdM014 A",
       "dM015 UdM163 EEdM100 EdM165 OOdM147 OdM137 EIdM131 INdM135 INdM195 ANdM178 ENdM019 SI",
       "dM020 SAdM021 SUdM162 SEEdM116 SEdM136 SOOdM079 SOdM196 SIAdM025 LIdM026 LAdM027 LU",
       "dM084 LEEdM073 LEdM054 LOOdM153 LOdM110 LONG LEdM016 DIdM017 DAdM018 DUdM089 DEE",
       "dM180 DOOdM181 DOdM022 TIdM023 TAdM024 TUdM091 TEEdM055 TEdM104 TOOdM069 TOdM028 JI",
       "dM029 JAdM030 JUdM157 JEEdM113 JEdM160 JOOdM063 JOdM175 LONG JOdM031 YIdM032 YA",
       "dM033 YUdM109 YEEdM080 YEdM141 YOOdM121 YOdM034 FIdM035 FAdM036 FUdM078 FEEdM075 FE",
       "dM133 FOOdM088 FOdM197 FUAdM101 FANdM037 NINdM038 NANdM039 NUNdM117 NENdM169 NON",
       "dM176 HIdM041 HAdM186 HUdM040 HEEdM096 HEdM042 HOOdM140 HOdM083 HEEIdM128 HOOU",
       "dM053 HINdM130 HANdM087 HUNdM052 HENdM193 HONdM046 HUANdM090 NGGIdM043 NGGAdM082 NGGU",
       "dM115 NGGEEdM146 NGGEdM156 NGGOOdM120 NGGOdM159 NGGAAdM127 NGGUAdM086 LONG NGGE",
       "dM106 LONG NGGOOdM183 LONG NGGOdM155 GIdM111 GAdM168 GUdM190 GEEdM166 GUEIdM167 GUAN",
       "dM184 NGENdM057 NGONdM177 NGUANdM068 PIdM099 PAdM050 PUdM081 PEEdM051 PEdM102 POO",
       "dM066 POdM145 MBIdM062 MBAdM122 MBUdM047 MBEEdM188 MBEEdM072 MBEdM172 MBOOdM174 MBO",
       "dM187 MBUUdM161 LONG MBEdM105 LONG MBOOdM142 LONG MBOdM132 KPIdM092 KPAdM074 KPU",
       "dM044 KPEEdM108 KPEdM112 KPOOdM158 KPOdM124 GBIdM056 GBAdM148 GBUdM093 GBEEdM107 GBE",
       "dM071 GBOOdM070 GBOdM171 RAdM123 NDIdM129 NDAdM125 NDUdM191 NDEEdM119 NDEdM067 NDOO",
       "dM064 NDOdM152 NJAdM192 NJUdM149 NJEEdM134 NJOOdM182 VIdM185 VAdM151 VUdM173 VEE",
       "dM085 VEdM144 VOOdM077 VOdM164 NYINdM058 NYANdM170 NYUNdM098 NYENdM060 NYON"]⟩,
    ⟨0x1E8C7,
      ["aMENDE KIKAKUI DIGIT ONEdTWOdTHREEdFOURdFIVEdSIXdSEVENdEIGHTdNINE",
       "cCOMBINING NUMBER TEENSeTENSeHUNDREDSeTHOUSANDSeTEN THOUSANDSeHUNDRED THOUSANDS",
       "eMILLIONS"]⟩,
    ⟨0x1E900,
      ["aADLAM CAPITAL LETTER ALIFdDAALIdLAAMdMIIMdBAdSINNYIIYHEdPEdBHEdRAdEdFAdIdOdDHAdYHE",
       "dWAWdNUNdKAFdYAdUdJIIMdCHIdHAdQAAFdGAdNYAdTUdNHAdVAdKHAdGBEdZALdKPOdSHA",
       "bSMALL LETTER ALIFdDAALIdLAAMdMIIMdBAdSINNYIIYHEdPEdBHEdRAdEdFAdIdOdDHAdYHEdWAWdNUN",
       "dKAFdYAdUdJIIMdCHIdHAdQAAFdGAdNYAdTUdNHAdVAdKHAdGBEdZALdKPOdSHAbALIF LENGTHENER",
       "bVOWEL LENGTHENERbGEMINATION MARKbHAMZAbCONSONANT MODIFIER",
       "bGEMINATE CONSONANT MODIFIERbNUKTAbNASALIZATION MARK"]⟩,
    ⟨0x1E950, ["aADLAM DIGIT ZEROcONEcTWOcTHREEcFOURcFIVEcSIXcSEVENcEIGHTcNINE"]⟩,
    ⟨0x1E95E, ["aADLAM INITIAL EXCLAMATION MARKcQUESTION MARK"]⟩,
    ⟨0x1EC71,
      ["aINDIC SIYAQ NUMBER ONEdTWOdTHREEdFOURdFIVEdSIXdSEVENdEIGHTdNINEdTENdTWENTYdTHIRTY",
       "dFORTYdFIFTYdSIXTYdSEVENTYdEIGHTYdNINETYdONE HUNDREDdTWO HUNDREDdTHREE HUNDRED",
       "dFOUR HUNDREDdFIVE HUNDREDdSIX HUNDREDdSEVEN HUNDREDdEIGHT HUNDREDdNINE HUNDRED",
       "dONE THOUSANDdTWO THOUSANDdTHREE THOUSANDdFOUR THOUSANDdFIVE THOUSANDdSIX THOUSAND",
       "dSEVEN THOUSANDdEIGHT THOUSANDdNINE THOUSANDdTEN THOUSANDdTWENTY THOUSAND",
       "dTHIRTY THOUSANDdFORTY THOUSANDdFIFTY THOUSANDdSIXTY THOUSANDdSEVENTY THOUSAND",
       "dEIGHTY THOUSANDdNINETY THOUSANDdLAKHdLAKHANcLAKH MARKcNUMBER KARORdKARORAN",
       "dPREFIXED ONEeTWOeTHREEeFOUReFIVEeSIXeSEVENeEIGHTeNINEcPLACEHOLDER",
       "cFRACTION ONE QUARTEReHALFdTHREE QUARTERScRUPEE MARKcNUMBER ALTERNATE ONEeTWO",
       "eTEN THOUSANDcALTERNATE LAKH MARK"]⟩,
    ⟨0x1ED01,
      ["aOTTOMAN SIYAQ NUMBER ONEdTWOdTHREEdFOURdFIVEdSIXdSEVENdEIGHTdNINEdTENdTWENTYdTHIRTY",
       "dFORTYdFIFTYdSIXTYdSEVENTYdEIGHTYdNINETYdONE HUNDREDdTWO HUNDREDdTHREE HUNDRED",
       "dFOUR HUNDREDdFIVE HUNDREDdSIX HUNDREDdSEVEN HUNDREDdEIGHT HUNDREDdNINE HUNDRED",
       "dONE THOUSANDdTWO THOUSANDdTHREE THOUSANDdFOUR THOUSANDdFIVE THOUSANDdSIX THOUSAND",
       "dSEVEN THOUSANDdEIGHT THOUSANDdNINE THOUSANDdTEN THOUSANDdTWENTY THOUSAND",
       "dTHIRTY THOUSANDdFORTY THOUSANDdFIFTY THOUSANDdSIXTY THOUSANDdSEVENTY THOUSAND",
       "dEIGHTY THOUSANDdNINETY THOUSANDcMARRATANcALTERNATE NUMBER TWOeTHREEeFOUReFIVEeSIX",
       "eSEVENeEIGHTeNINEeTENeFOUR HUNDREDeSIX HUNDREDeTWO THOUSANDeTEN THOUSAND",
       "cFRACTION ONE HALFeSIXTH"]⟩,
    ⟨0x1EE00, ["aARABIC MATHEMATICAL ALEFcBEHcJEEMcDAL"]⟩,
    ⟨0x1EE05,
      ["aARABIC MATHEMATICAL WAWcZAINcHAHcTAHcYEHcKAFcLAMcMEEMcNOONcSEENcAINcFEHcSADcQAFcREH",
       "cSHEENcTEHcTHEHcKHAHcTHALcDADcZAHcGHAINcDOTLESS BEHdNOONdFEHdQAF"]⟩,
    ⟨0x1EE21, ["aARABIC MATHEMATICAL INITIAL BEHdJEEM"]⟩,
    ⟨0x1EE24, ["aARABIC MATHEMATICAL INITIAL HEH"]⟩,
    ⟨0x1EE27, ["aARABIC MATHEMATICAL INITIAL HAH"]⟩,
    ⟨0x1EE29, ["aARABIC MATHEMATICAL INITIAL YEHdKAFdLAMdMEEMdNOONdSEENdAINdFEHdSADdQAF"]⟩,
    ⟨0x1EE34, ["aARABIC MATHEMATICAL INITIAL SHEENdTEHdTHEHdKHAH"]⟩,
    ⟨0x1EE39, ["aARABIC MATHEMATICAL INITIAL DAD"]⟩,
    ⟨0x1EE3B, ["aARABIC MATHEMATICAL INITIAL GHAIN"]⟩,
    ⟨0x1EE42, ["aARABIC MATHEMATICAL TAILED JEEM"]⟩,
    ⟨0x1EE47, ["aARABIC MATHEMATICAL TAILED HAH"]⟩,
    ⟨0x1EE49, ["aARABIC MATHEMATICAL TAILED YEH"]⟩,
    ⟨0x1EE4B, ["aARABIC MATHEMATICAL TAILED LAM"]⟩,
    ⟨0x1EE4D, ["aARABIC MATHEMATICAL TAILED NOONdSEENdAIN"]⟩,
    ⟨0x1EE51, ["aARABIC MATHEMATICAL TAILED SADdQAF"]⟩,
    ⟨0x1EE54, ["aARABIC MATHEMATICAL TAILED SHEEN"]⟩,
    ⟨0x1EE57, ["aARABIC MATHEMATICAL TAILED KHAH"]⟩,
    ⟨0x1EE59, ["aARABIC MATHEMATICAL TAILED DAD"]⟩,
    ⟨0x1EE5B, ["aARABIC MATHEMATICAL TAILED GHAIN"]⟩,
    ⟨0x1EE5D, ["aARABIC MATHEMATICAL TAILED DOTLESS NOON"]⟩,
    ⟨0x1EE5F, ["aARABIC MATHEMATICAL TAILED DOTLESS QAF"]⟩,
    ⟨0x1EE61, ["aARABIC MATHEMATICAL STRETCHED BEHdJEEM"]⟩,
    ⟨0x1EE64, ["aARABIC MATHEMATICAL STRETCHED HEH"]⟩,
    ⟨0x1EE67, ["aARABIC MATHEMATICAL STRETCHED HAHdTAHdYEHdKAF"]⟩,
    ⟨0x1EE6C, ["aARABIC MATHEMATICAL STRETCHED MEEMdNOONdSEENdAINdFEHdSADdQAF"]⟩,
    ⟨0x1EE74, ["aARABIC MATHEMATICAL STRETCHED SHEENdTEHdTHEHdKHAH"]⟩,
    ⟨0x1EE79, ["aARABIC MATHEMATICAL STRETCHED DADdZAHdGHAINdDOTLESS BEH"]⟩,
    ⟨0x1EE7E, ["aARABIC MATHEMATICAL STRETCHED DOTLESS FEH"]⟩,
    ⟨0x1EE80, ["aARABIC MATHEMATICAL LOOPED ALEFdBEHdJEEMdDALdHEHdWAWdZAINdHAHdTAHdYEH"]⟩,
    ⟨0x1EE8B,
      ["aARABIC MATHEMATICAL LOOPED LAMdMEEMdNOONdSEENdAINdFEHdSADdQAFdREHdSHEENdTEHdTHEH",
       "dKHAHdTHALdDADdZAHdGHAIN"]⟩,
    ⟨0x1EEA1, ["aARABIC MATHEMATICAL DOUBLE-STRUCK BEHeJEEMeDAL"]⟩,
    ⟨0x1EEA5, ["aARABIC MATHEMATICAL DOUBLE-STRUCK WAWeZAINeHAHeTAHeYEH"]⟩,
    ⟨0x1EEAB,
      ["aARABIC MATHEMATICAL DOUBLE-STRUCK LAMeMEEMeNOONeSEENeAINeFEHeSADeQAFeREHeSHEENeTEH",
       "eTHEHeKHAHeTHALeDADeZAHeGHAIN"]⟩,
    ⟨0x1EEF0, ["aARABIC MATHEMATICAL OPERATOR MEEM WITH HAH WITH TATWEELdHAH WITH DAL"]⟩,
    ⟨0x1F000,
      ["aMAHJONG TILE EAST WINDcSOUTH WINDcWEST WINDcNORTH WINDcRED DRAGONcGREEN DRAGON",
       "cWHITE DRAGONcONE OF CHARACTERScTWO OF CHARACTERScTHREE OF CHARACTERS",
       "cFOUR OF CHARACTERScFIVE OF CHARACTERScSIX OF CHARACTERScSEVEN OF CHARACTERS",
       "cEIGHT OF CHARACTERScNINE OF CHARACTERScONE OF BAMBOOScTWO OF BAMBOOS",
       "cTHREE OF BAMBOOScFOUR OF BAMBOOScFIVE OF BAMBOOScSIX OF BAMBOOScSEVEN OF BAMBOOS",
       "cEIGHT OF BAMBOOScNINE OF BAMBOOScONE OF CIRCLEScTWO OF CIRCLEScTHREE OF CIRCLES",
       "cFOUR OF CIRCLEScFIVE OF CIRCLEScSIX OF CIRCLEScSEVEN OF CIRCLEScEIGHT OF CIRCLES",
       "cNINE OF CIRCLEScPLUMcORCHIDcBAMBOOcCHRYSANTHEMUMcSPRINGcSUMMERcAUTUMNcWINTERcJOKER",
       "cBACK"]⟩,
    ⟨0x1F030,
      ["aDOMINO TILE HORIZONTAL BACKcHORIZONTAL-00-00e01e02e03e04e05e06d01-00e01e02e03e04e05",
       "e06d02-00e01e02e03e04e05e06d03-00e01e02e03e04e05e06d04-00e01e02e03e04e05e06d05-00e01",
       "e02e03e04e05e06d06-00e01e02e03e04e05e06cVERTICAL BACKcVERTICAL-00-00e01e02e03e04e05",
       "e06d01-00e01e02e03e04e05e06d02-00e01e02e03e04e05e06d03-00e01e02e03e04e05e06d04-00e01",
       "e02e03e04e05e06d05-00e01e02e03e04e05e06d06-00e01e02e03e04e05e06"]⟩,
    ⟨0x1F0A0,
      ["aPLAYING CARD BACKcACE OF SPADEScTWO OF SPADEScTHREE OF SPADEScFOUR OF SPADES",
       "cFIVE OF SPADEScSIX OF SPADEScSEVEN OF SPADEScEIGHT OF SPADEScNINE OF SPADES",
       "cTEN OF SPADEScJACK OF SPADEScKNIGHT OF SPADEScQUEEN OF SPADEScKING OF SPADES"]⟩,
    ⟨0x1F0B1,
      ["aPLAYING CARD ACE OF HEARTScTWO OF HEARTScTHREE OF HEARTScFOUR OF HEARTS",
       "cFIVE OF HEARTScSIX OF HEARTScSEVEN OF HEARTScEIGHT OF HEARTScNINE OF HEARTS",
       "cTEN OF HEARTScJACK OF HEARTScKNIGHT OF HEARTScQUEEN OF HEARTScKING OF HEARTS",
       "cRED JOKER"]⟩,
    ⟨0x1F0C1,
      ["aPLAYING CARD ACE OF DIAMONDScTWO OF DIAMONDScTHREE OF DIAMONDScFOUR OF DIAMONDS",
       "cFIVE OF DIAMONDScSIX OF DIAMONDScSEVEN OF DIAMONDScEIGHT OF DIAMONDS",
       "cNINE OF DIAMONDScTEN OF DIAMONDScJACK OF DIAMONDScKNIGHT OF DIAMONDS",
       "cQUEEN OF DIAMONDScKING OF DIAMONDScBLACK JOKER"]⟩,
    ⟨0x1F0D1,
      ["aPLAYING CARD ACE OF CLUBScTWO OF CLUBScTHREE OF CLUBScFOUR OF CLUBScFIVE OF CLUBS",
       "cSIX OF CLUBScSEVEN OF CLUBScEIGHT OF CLUBScNINE OF CLUBScTEN OF CLUBScJACK OF CLUBS",
       "cKNIGHT OF CLUBScQUEEN OF CLUBScKING OF CLUBScWHITE JOKERcFOOLcTRUMP-1d2d3d4d5d6d7d8",
       "d9d10d11d12d13d14d15d16d17d18d19d20d21"]⟩,
    ⟨0x1F100,
      ["aDIGIT ZERO FULL STOPcCOMMAbONE COMMAbTWO COMMAbTHREE COMMAbFOUR COMMAbFIVE COMMA",
       "bSIX COMMAbSEVEN COMMAbEIGHT COMMAbNINE COMMAaDINGBAT CIRCLED SANS-SERIF DIGIT ZERO",
       "bNEGATIVE CIRCLED SANS-SERIF DIGIT ZEROaCIRCLED ZERO WITH SLASHbANTICLOCKWISE ARROW",
       "bDOLLAR SIGN WITH OVERLAID BACKSLASHaPARENTHESIZED LATIN CAPITAL LETTER AeBeCeDeEeFeG",
       "eHeIeJeKeLeMeNeOePeQeReSeTeUeVeWeXeYeZ",
       "aTORTOISE SHELL BRACKETED LATIN CAPITAL LETTER S",
       "aCIRCLED ITALIC LATIN CAPITAL LETTER CfRbCDbWZaCOPYLEFT SYMBOL",
       "aSQUARED LATIN CAPITAL LETTER AeBeCeDeEeFeGeHeIeJeKeLeMeNeOePeQeReSeTeUeVeWeXeYeZbHV",
       "bMVbSDbSSbPPVbWCaNEGATIVE CIRCLED LATIN CAPITAL LETTER AfBfCfDfEfFfGfHfIfJfKfLfMfNfO",
       "fPfQfRfSfTfUfVfWfXfYfZaRAISED MC SIGNbMD SIGNbMR SIGNaCIRCLED CC",
       "bC WITH OVERLAID BACKSLASHbHUMAN FIGUREaNEGATIVE SQUARED LATIN CAPITAL LETTER AfBfCfD",
       "fEfFfGfHfIfJfKfLfMfNfOfPfQfRfSfTfUfVfWfXfYfZ",
       "aCROSSED NEGATIVE SQUARED LATIN CAPITAL LETTER PaNEGATIVE SQUARED ICcPAcSAcABcWC",
       "aSQUARE DJaSQUARED CLbCOOLbFREEbIDbNEWbNGbOKbSOSbUP WITH EXCLAMATION MARKbVSbTHREE D",
       "bSECOND SCREENbTWO KbFOUR KbEIGHT KbFIVE POINT ONEbSEVEN POINT ONE",
       "bTWENTY-TWO POINT TWObSIXTY PbONE HUNDRED TWENTY PbLATIN SMALL LETTER DbHCbHDRbHI-RES",
       "bLOSSLESSbSHVbUHDbVODaMASK WORK SYMBOL"]⟩,
    ⟨0x1F1E6,
      ["aREGIONAL INDICATOR SYMBOL LETTER AeBeCeDeEeFeGeHeIeJeKeLeMeNeOePeQeReSeTeUeVeWeXeYeZ",
       "aSQUARE HIRAGANA HOKAaSQUARED KATAKANA KOKOcSA"]⟩,
    ⟨0x1F210,
      ["aSQUARED CJK UNIFIED IDEOGRAPH-624Be5B57e53CCbKATAKANA DEbCJK UNIFIED IDEOGRAPH-4E8C",
       "e591Ae89E3e5929e4EA4e6620e7121e6599e524De5F8Ce518De65B0e521De7D42e751Fe8CA9e58F0e5439",
       "e6F14e6295e6355e4E00e4E09e904Ae5DE6e4E2De53F3e6307e8D70e6253e7981e7A7Ae5408e6E80e6709",
       "e6708e7533e5272e55B6e914D"]⟩,
    ⟨0x1F240,
      ["aTORTOISE SHELL BRACKETED CJK UNIFIED IDEOGRAPH-672Cg4E09g4E8Cg5B89g70B9g6253g76D7",
       "g52DDg6557"]⟩,
    ⟨0x1F250, ["aCIRCLED IDEOGRAPH ADVANTAGEcACCEPT"]⟩,
    ⟨0x1F260, ["aROUNDED SYMBOL FOR FUdLUdSHOUdXIdSHUANGXIdCAI"]⟩,
    ⟨0x1F300,
      ["aCYCLONEaFOGGYaCLOSED UMBRELLAaNIGHT WITH STARSaSUNRISE OVER MOUNTAINSaSUNRISE",
       "aCITYSCAPE AT DUSKaSUNSET OVER BUILDINGSaRAINBOWaBRIDGE AT NIGHTaWATER WAVEaVOLCANO",
       "aMILKY WAYaEARTH GLOBE EUROPE-AFRICAcAMERICAScASIA-AUSTRALIAaGLOBE WITH MERIDIANS",
       "aNEW MOON SYMBOLaWAXING CRESCENT MOON SYMBOLaFIRST QUARTER MOON SYMBOL",
       "aWAXING GIBBOUS MOON SYMBOLaFULL MOON SYMBOLaWANING GIBBOUS MOON SYMBOL",
       "aLAST QUARTER MOON SYMBOLaWANING CRESCENT MOON SYMBOLaCRESCENT MOON",
       "aNEW MOON WITH FACEaFIRST QUARTER MOON WITH FACEaLAST QUARTER MOON WITH FACE",
       "aFULL MOON WITH FACEaSUN WITH FACEaGLOWING STARaSHOOTING STARaTHERMOMETER",
       "aBLACK DROPLETaWHITE SUNbSUN WITH SMALL CLOUDcBEHIND CLOUDdCLOUD WITH RAIN",
       "aCLOUD WITH RAINcSNOWcLIGHTNINGcTORNADOaFOGaWIND BLOWING FACEaHOT DOGaTACOaBURRITO",
       "aCHESTNUTaSEEDLINGaEVERGREEN TREEaDECIDUOUS TREEaPALM TREEaCACTUSaHOT PEPPERaTULIP",
       "aCHERRY BLOSSOMaROSEaHIBISCUSaSUNFLOWERaBLOSSOMaEAR OF MAIZEcRICEaHERB",
       "aFOUR LEAF CLOVERaMAPLE LEAFaFALLEN LEAFaLEAF FLUTTERING IN WINDaMUSHROOMaTOMATO",
       "aAUBERGINEaGRAPESaMELONaWATERMELONaTANGERINEaLEMONaBANANAaPINEAPPLEaRED APPLE",
       "aGREEN APPLEaPEARaPEACHaCHERRIESaSTRAWBERRYaHAMBURGERaSLICE OF PIZZAaMEAT ON BONE",
       "aPOULTRY LEGaRICE CRACKERbBALLaCOOKED RICEaCURRY AND RICEaSTEAMING BOWLaSPAGHETTI",
       "aBREADaFRENCH FRIESaROASTED SWEET POTATOaDANGOaODENaSUSHIaFRIED SHRIMP",
       "aFISH CAKE WITH SWIRL DESIGNaSOFT ICE CREAMaSHAVED ICEaICE CREAMaDOUGHNUTaCOOKIE",
       "aCHOCOLATE BARaCANDYaLOLLIPOPaCUSTARDaHONEY POTaSHORTCAKEaBENTO BOXaPOT OF FOOD",
       "aCOOKINGaFORK AND KNIFEaTEACUP WITHOUT HANDLEaSAKE BOTTLE AND CUPaWINE GLASS",
       "aCOCKTAIL GLASSaTROPICAL DRINKaBEER MUGaCLINKING BEER MUGSaBABY BOTTLE",
       "aFORK AND KNIFE WITH PLATEaBOTTLE WITH POPPING CORKaPOPCORNaRIBBONaWRAPPED PRESENT",
       "aBIRTHDAY CAKEaJACK-O-LANTERNaCHRISTMAS TREEaFATHER CHRISTMASaFIREWORKS",
       "aFIREWORK SPARKLERaBALLOONaPARTY POPPERaCONFETTI BALLaTANABATA TREEaCROSSED FLAGS",
       "aPINE DECORATIONaJAPANESE DOLLSaCARP STREAMERaWIND CHIMEaMOON VIEWING CEREMONY",
       "aSCHOOL SATCHELaGRADUATION CAPaHEART WITH TIP ON THE LEFTaBOUQUET OF FLOWERS",
       "aMILITARY MEDALaREMINDER RIBBONaMUSICAL KEYBOARD WITH JACKSaSTUDIO MICROPHONE",
       "aLEVEL SLIDERaCONTROL KNOBSaBEAMED ASCENDING MUSICAL NOTESbDESCENDING MUSICAL NOTES",
       "aFILM FRAMESaADMISSION TICKETSaCAROUSEL HORSEaFERRIS WHEELaROLLER COASTER",
       "aFISHING POLE AND FISHaMICROPHONEaMOVIE CAMERAaCINEMAaHEADPHONEaARTIST PALETTE",
       "aTOP HATaCIRCUS TENTaTICKETaCLAPPER BOARDaPERFORMING ARTSaVIDEO GAMEaDIRECT HIT",
       "aSLOT MACHINEaBILLIARDSaGAME DIEaBOWLINGaFLOWER PLAYING CARDSaMUSICAL NOTE",
       "aMULTIPLE MUSICAL NOTESaSAXOPHONEaGUITARaMUSICAL KEYBOARDaTRUMPETaVIOLIN",
       "aMUSICAL SCOREaRUNNING SHIRT WITH SASHaTENNIS RACQUET AND BALLaSKI AND SKI BOOT",
       "aBASKETBALL AND HOOPaCHEQUERED FLAGaSNOWBOARDERaRUNNERaSURFERaSPORTS MEDALaTROPHY",
       "aHORSE RACINGaAMERICAN FOOTBALLaRUGBY FOOTBALLaSWIMMERaWEIGHT LIFTERaGOLFER",
       "aRACING MOTORCYCLEbCARaCRICKET BAT AND BALLaVOLLEYBALLaFIELD HOCKEY STICK AND BALL",
       "aICE HOCKEY STICK AND PUCKaTABLE TENNIS PADDLE AND BALLaSNOW CAPPED MOUNTAINaCAMPING",
       "aBEACH WITH UMBRELLAaBUILDING CONSTRUCTIONaHOUSE BUILDINGSaCITYSCAPE",
       "aDERELICT HOUSE BUILDINGaCLASSICAL BUILDINGaDESERTaDESERT ISLANDaNATIONAL PARK",
       "aSTADIUMaHOUSE BUILDINGbWITH GARDENaOFFICE BUILDINGaJAPANESE POST OFFICE",
       "aEUROPEAN POST OFFICEaHOSPITALaBANKaAUTOMATED TELLER MACHINEaHOTELaLOVE HOTEL",
       "aCONVENIENCE STOREaSCHOOLaDEPARTMENT STOREaFACTORYaIZAKAYA LANTERNaJAPANESE CASTLE",
       "aEUROPEAN CASTLEaWHITE PENNANTaBLACK PENNANTaWAVING WHITE FLAGbBLACK FLAGaROSETTE",
       "aBLACK ROSETTEaLABELaBADMINTON RACQUET AND SHUTTLECOCKaBOW AND ARROWaAMPHORA",
       "aEMOJI MODIFIER FITZPATRICK TYPE-1-2e3e4e5e6aRATaMOUSEaOXaWATER BUFFALOaCOWaTIGER",
       "aLEOPARDaRABBITaCATaDRAGONaCROCODILEaWHALEaSNAILaSNAKEaHORSEaRAMaGOATaSHEEPaMONKEY",
       "aROOSTERaCHICKENaDOGaPIGaBOARaELEPHANTaOCTOPUSaSPIRAL SHELLaBUGaANTaHONEYBEE",
       "aLADY BEETLEaFISHaTROPICAL FISHaBLOWFISHaTURTLEaHATCHING CHICKaBABY CHICK",
       "aFRONT-FACING BABY CHICKaBIRDaPENGUINaKOALAaPOODLEaDROMEDARY CAMELaBACTRIAN CAMEL",
       "aDOLPHINaMOUSE FACEaCOW FACEaTIGER FACEaRABBIT FACEaCAT FACEaDRAGON FACE",
       "aSPOUTING WHALEaHORSE FACEaMONKEY FACEaDOG FACEaPIG FACEaFROG FACEaHAMSTER FACE",
       "aWOLF FACEaBEAR FACEaPANDA FACEaPIG NOSEaPAW PRINTSaCHIPMUNKaEYESaEYEaEARaNOSEaMOUTH",
       "aTONGUEaWHITE UP POINTING BACKHAND INDEXbDOWN POINTING BACKHAND INDEX",
       "bLEFT POINTING BACKHAND INDEXbRIGHT POINTING BACKHAND INDEXaFISTED HAND SIGN",
       "aWAVING HAND SIGNaOK HAND SIGNaTHUMBS UP SIGNbDOWN SIGNaCLAPPING HANDS SIGN",
       "aOPEN HANDS SIGNaCROWNaWOMANS HATaEYEGLASSESaNECKTIEaT-SHIRTaJEANSaDRESSaKIMONO",
       "aBIKINIaWOMANS CLOTHESaPURSEaHANDBAGaPOUCHaMANS SHOEaATHLETIC SHOEaHIGH-HEELED SHOE",
       "aWOMANS SANDALbBOOTSaFOOTPRINTSaBUST IN SILHOUETTEaBUSTS IN SILHOUETTEaBOYaGIRLaMAN",
       "aWOMANaFAMILYaMAN AND WOMAN HOLDING HANDSaTWO MEN HOLDING HANDSbWOMEN HOLDING HANDS",
       "aPOLICE OFFICERaWOMAN WITH BUNNY EARSaBRIDE WITH VEILaPERSON WITH BLOND HAIR",
       "aMAN WITH GUA PI MAOcTURBANaOLDER MANbWOMANaBABYaCONSTRUCTION WORKERaPRINCESS",
       "aJAPANESE OGREbGOBLINaGHOSTaBABY ANGELaEXTRATERRESTRIAL ALIENaALIEN MONSTERaIMPaSKULL",
       "aINFORMATION DESK PERSONaGUARDSMANaDANCERaLIPSTICKaNAIL POLISHaFACE MASSAGEaHAIRCUT",
       "aBARBER POLEaSYRINGEaPILLaKISS MARKaLOVE LETTERaRINGaGEM STONEaKISSaBOUQUET",
       "aCOUPLE WITH HEARTaWEDDINGaBEATING HEARTaBROKEN HEARTaTWO HEARTSaSPARKLING HEART",
       "aGROWING HEARTaHEART WITH ARROWaBLUE HEARTaGREEN HEARTaYELLOW HEARTaPURPLE HEART",
       "aHEART WITH RIBBONaREVOLVING HEARTSaHEART DECORATIONaDIAMOND SHAPE WITH A DOT INSIDE",
       "aELECTRIC LIGHT BULBaANGER SYMBOLaBOMBaSLEEPING SYMBOLaCOLLISION SYMBOL",
       "aSPLASHING SWEAT SYMBOLaDROPLETaDASH SYMBOLaPILE OF POOaFLEXED BICEPSaDIZZY SYMBOL",
       "aSPEECH BALLOONaTHOUGHT BALLOONaWHITE FLOWERaHUNDRED POINTS SYMBOLaMONEY BAG",
       "aCURRENCY EXCHANGEaHEAVY DOLLAR SIGNaCREDIT CARDaBANKNOTE WITH YEN SIGNcDOLLAR SIGN",
       "cEURO SIGNcPOUND SIGNaMONEY WITH WINGSaCHART WITH UPWARDS TREND AND YEN SIGNaSEAT",
       "aPERSONAL COMPUTERaBRIEFCASEaMINIDISCaFLOPPY DISKaOPTICAL DISCaDVDaFILE FOLDER",
       "aOPEN FILE FOLDERaPAGE WITH CURLbFACING UPaCALENDARaTEAR-OFF CALENDARaCARD INDEX",
       "aCHART WITH UPWARDS TRENDcDOWNWARDS TRENDaBAR CHARTaCLIPBOARDaPUSHPINaROUND PUSHPIN",
       "aPAPERCLIPaSTRAIGHT RULERaTRIANGULAR RULERaBOOKMARK TABSaLEDGERaNOTEBOOK",
       "aNOTEBOOK WITH DECORATIVE COVERaCLOSED BOOKaOPEN BOOKaGREEN BOOKaBLUE BOOK",
       "aORANGE BOOKaBOOKSaNAME BADGEaSCROLLaMEMOaTELEPHONE RECEIVERaPAGERaFAX MACHINE",
       "aSATELLITE ANTENNAaPUBLIC ADDRESS LOUDSPEAKERaCHEERING MEGAPHONEaOUTBOX TRAY",
       "aINBOX TRAYaPACKAGEaE-MAIL SYMBOLaINCOMING ENVELOPE",
       "aENVELOPE WITH DOWNWARDS ARROW ABOVEaCLOSED MAILBOX WITH LOWERED FLAGdRAISED FLAG",
       "aOPEN MAILBOX WITH RAISED FLAGdLOWERED FLAGaPOSTBOXaPOSTAL HORNaNEWSPAPER",
       "aMOBILE PHONEbPHONE WITH RIGHTWARDS ARROW AT LEFTaVIBRATION MODEaMOBILE PHONE OFF",
       "aNO MOBILE PHONESaANTENNA WITH BARSaCAMERAaCAMERA WITH FLASHaVIDEO CAMERAaTELEVISION",
       "aRADIOaVIDEOCASSETTEaFILM PROJECTORaPORTABLE STEREOaPRAYER BEADS",
       "aTWISTED RIGHTWARDS ARROWSaCLOCKWISE RIGHTWARDS AND LEFTWARDS OPEN CIRCLE ARROWS",
       "gARROWS WITH CIRCLED ONE OVERLAYbDOWNWARDS AND UPWARDS OPEN CIRCLE ARROWS",
       "aANTICLOCKWISE DOWNWARDS AND UPWARDS OPEN CIRCLE ARROWSaLOW BRIGHTNESS SYMBOL",
       "aHIGH BRIGHTNESS SYMBOLaSPEAKER WITH CANCELLATION STROKEaSPEAKER",
       "aSPEAKER WITH ONE SOUND WAVEcTHREE SOUND WAVESaBATTERYaELECTRIC PLUG",
       "aLEFT-POINTING MAGNIFYING GLASSaRIGHT-POINTING MAGNIFYING GLASSaLOCK WITH INK PEN",
       "aCLOSED LOCK WITH KEYaKEYaLOCKaOPEN LOCKaBELLaBELL WITH CANCELLATION STROKEaBOOKMARK",
       "aLINK SYMBOLaRADIO BUTTONaBACK WITH LEFTWARDS ARROW ABOVE",
       "aEND WITH LEFTWARDS ARROW ABOVEaON WITH EXCLAMATION MARK WITH LEFT RIGHT ARROW ABOVE",
       "aSOON WITH RIGHTWARDS ARROW ABOVEaTOP WITH UPWARDS ARROW ABOVE",
       "aNO ONE UNDER EIGHTEEN SYMBOLaKEYCAP TENaINPUT SYMBOL FOR LATIN CAPITAL LETTERS",
       "eSMALL LETTERSdNUMBERSdSYMBOLSdLATIN LETTERSaFIREaELECTRIC TORCHaWRENCHaHAMMER",
       "aNUT AND BOLTaHOCHOaPISTOLaMICROSCOPEaTELESCOPEaCRYSTAL BALL",
       "aSIX POINTED STAR WITH MIDDLE DOTaJAPANESE SYMBOL FOR BEGINNERaTRIDENT EMBLEM",
       "aBLACK SQUARE BUTTONaWHITE SQUARE BUTTONaLARGE RED CIRCLEbBLUE CIRCLEbORANGE DIAMOND",
       "bBLUE DIAMONDaSMALL ORANGE DIAMONDbBLUE DIAMONDaUP-POINTING RED TRIANGLE",
       "aDOWN-POINTING RED TRIANGLEaUP-POINTING SMALL RED TRIANGLE",
       "aDOWN-POINTING SMALL RED TRIANGLEaLOWER RIGHT SHADOWED WHITE CIRCLE",
       "aUPPER RIGHT SHADOWED WHITE CIRCLEaCIRCLED CROSS POMMEE",
       "aCROSS POMMEE WITH HALF-CIRCLE BELOWbPOMMEEaNOTCHED LEFT SEMICIRCLE WITH THREE DOTS",
       "bRIGHT SEMICIRCLE WITH THREE DOTSaSYMBOL FOR MARKS CHAPTERaWHITE LATIN CROSS",
       "aHEAVY LATIN CROSSaCELTIC CROSSaOM SYMBOLaDOVE OF PEACEaKAABAaMOSQUEaSYNAGOGUE",
       "aMENORAH WITH NINE BRANCHESaBOWL OF HYGIEIAaCLOCK FACE ONE OCLOCKcTWO OCLOCK",
       "cTHREE OCLOCKcFOUR OCLOCKcFIVE OCLOCKcSIX OCLOCKcSEVEN OCLOCKcEIGHT OCLOCK",
       "cNINE OCLOCKcTEN OCLOCKcELEVEN OCLOCKcTWELVE OCLOCKcONE-THIRTYcTWO-THIRTY",
       "cTHREE-THIRTYcFOUR-THIRTYcFIVE-THIRTYcSIX-THIRTYcSEVEN-THIRTYcEIGHT-THIRTY",
       "cNINE-THIRTYcTEN-THIRTYcELEVEN-THIRTYcTWELVE-THIRTYaRIGHT SPEAKER",
       "bSPEAKER WITH ONE SOUND WAVEdTHREE SOUND WAVESaBULLHORNaBULLHORN WITH SOUND WAVES",
       "aRINGING BELLaBOOKaCANDLEaMANTELPIECE CLOCKaBLACK SKULL AND CROSSBONESaNO PIRACYaHOLE",
       "aMAN IN BUSINESS SUIT LEVITATINGaSLEUTH OR SPYaDARK SUNGLASSESaSPIDERaSPIDER WEB",
       "aJOYSTICKaMAN DANCINGaLEFT HAND TELEPHONE RECEIVERaTELEPHONE RECEIVER WITH PAGE",
       "aRIGHT HAND TELEPHONE RECEIVERaWHITE TOUCHTONE TELEPHONEaBLACK TOUCHTONE TELEPHONE",
       "aTELEPHONE ON TOP OF MODEMaCLAMSHELL MOBILE PHONEaBACK OF ENVELOPEaSTAMPED ENVELOPE",
       "aENVELOPE WITH LIGHTNINGaFLYING ENVELOPEaPEN OVER STAMPED ENVELOPEaLINKED PAPERCLIPS",
       "aBLACK PUSHPINaLOWER LEFT PENCILcBALLPOINT PENcFOUNTAIN PENcPAINTBRUSHcCRAYON",
       "aLEFT WRITING HANDaTURNED OK HAND SIGNaRAISED HAND WITH FINGERS SPLAYED",
       "aREVERSED RAISED HAND WITH FINGERS SPLAYEDbTHUMBS UP SIGNcDOWN SIGNbVICTORY HAND",
       "bHAND WITH MIDDLE FINGER EXTENDED",
       "aRAISED HAND WITH PART BETWEEN MIDDLE AND RING FINGERS",
       "aWHITE DOWN POINTING LEFT HAND INDEXaSIDEWAYS WHITE LEFT POINTING INDEX",
       "cRIGHT POINTING INDEXbBLACK LEFT POINTING INDEXcRIGHT POINTING INDEX",
       "aBLACK LEFT POINTING BACKHAND INDEXbRIGHT POINTING BACKHAND INDEX",
       "aSIDEWAYS WHITE UP POINTING INDEXcDOWN POINTING INDEXbBLACK UP POINTING INDEX",
       "cDOWN POINTING INDEXaBLACK UP POINTING BACKHAND INDEXbDOWN POINTING BACKHAND INDEX",
       "bHEARTaDESKTOP COMPUTERaKEYBOARD AND MOUSEaTHREE NETWORKED COMPUTERSaPRINTER",
       "aPOCKET CALCULATORaBLACK HARD SHELL FLOPPY DISKaWHITE HARD SHELL FLOPPY DISK",
       "aSOFT SHELL FLOPPY DISKaTAPE CARTRIDGEaWIRED KEYBOARDaONE BUTTON MOUSE",
       "aTWO BUTTON MOUSEaTHREE BUTTON MOUSEaTRACKBALLaOLD PERSONAL COMPUTERaHARD DISKaSCREEN",
       "aPRINTER ICONaFAX ICONaOPTICAL DISC ICONaDOCUMENT WITH TEXTcTEXT AND PICTUREcPICTURE",
       "aFRAME WITH PICTUREcTILEScAN XaBLACK FOLDERaFOLDERaOPEN FOLDERaCARD INDEX DIVIDERS",
       "bFILE BOXaFILE CABINETaEMPTY NOTEbNOTE PAGEcPADaNOTEaNOTE PAGEbPADaEMPTY DOCUMENT",
       "bPAGEbPAGESaDOCUMENTaPAGEaPAGESaWASTEBASKETaSPIRAL NOTE PADbCALENDAR PAD",
       "aDESKTOP WINDOWaMINIMIZEaMAXIMIZEaOVERLAPaCLOCKWISE RIGHT AND LEFT SEMICIRCLE ARROWS",
       "aCANCELLATION XaINCREASE FONT SIZE SYMBOLaDECREASE FONT SIZE SYMBOLaCOMPRESSION",
       "aOLD KEYaROLLED-UP NEWSPAPERaPAGE WITH CIRCLED TEXTaSTOCK CHARTaDAGGER KNIFEaLIPS",
       "aSPEAKING HEAD IN SILHOUETTEaTHREE RAYS ABOVEcBELOWcLEFTcRIGHTaLEFT SPEECH BUBBLE",
       "aRIGHT SPEECH BUBBLEaTWO SPEECH BUBBLESaTHREE SPEECH BUBBLESaLEFT THOUGHT BUBBLE",
       "aRIGHT THOUGHT BUBBLEaLEFT ANGER BUBBLEaRIGHT ANGER BUBBLEaMOOD BUBBLE",
       "aLIGHTNING MOOD BUBBLEbMOODaBALLOT BOX WITH BALLOTbSCRIPT XbBOX WITH SCRIPT X",
       "bBOLD SCRIPT XbBOX WITH BOLD SCRIPT XaLIGHT CHECK MARKaBALLOT BOX WITH BOLD CHECK",
       "aWORLD MAPaMOUNT FUJIaTOKYO TOWERaSTATUE OF LIBERTYaSILHOUETTE OF JAPANaMOYAI",
       "aGRINNING FACEbFACE WITH SMILING EYESaFACE WITH TEARS OF JOY",
       "aSMILING FACE WITH OPEN MOUTHeMOUTH AND SMILING EYESgCOLD SWEATgTIGHTLY-CLOSED EYES",
       "dHALOdHORNSaWINKING FACEaSMILING FACE WITH SMILING EYESaFACE SAVOURING DELICIOUS FOOD",
       "aRELIEVED FACEaSMILING FACE WITH HEART-SHAPED EYESdSUNGLASSESaSMIRKING FACE",
       "aNEUTRAL FACEaEXPRESSIONLESS FACEaUNAMUSED FACEaFACE WITH COLD SWEATaPENSIVE FACE",
       "aCONFUSED FACEaCONFOUNDED FACEaKISSING FACEaFACE THROWING A KISS",
       "aKISSING FACE WITH SMILING EYESdCLOSED EYESaFACE WITH STUCK-OUT TONGUE",
       "eTONGUE AND WINKING EYEgTIGHTLY-CLOSED EYESaDISAPPOINTED FACEaWORRIED FACEaANGRY FACE",
       "aPOUTING FACEaCRYING FACEaPERSEVERING FACEaFACE WITH LOOK OF TRIUMPH",
       "aDISAPPOINTED BUT RELIEVED FACEaFROWNING FACE WITH OPEN MOUTHaANGUISHED FACE",
       "aFEARFUL FACEaWEARY FACEaSLEEPY FACEaTIRED FACEaGRIMACING FACEaLOUDLY CRYING FACE",
       "aFACE WITH OPEN MOUTHaHUSHED FACEaFACE WITH OPEN MOUTH AND COLD SWEAT",
       "bSCREAMING IN FEARaASTONISHED FACEaFLUSHED FACEaSLEEPING FACEaDIZZY FACE",
       "aFACE WITHOUT MOUTHbWITH MEDICAL MASKaGRINNING CAT FACE WITH SMILING EYES",
       "aCAT FACE WITH TEARS OF JOYaSMILING CAT FACE WITH OPEN MOUTHeHEART-SHAPED EYES",
       "aCAT FACE WITH WRY SMILEaKISSING CAT FACE WITH CLOSED EYESaPOUTING CAT FACE",
       "aCRYING CAT FACEaWEARY CAT FACEaSLIGHTLY FROWNING FACEbSMILING FACEaUPSIDE-DOWN FACE",
       "aFACE WITH ROLLING EYEScNO GOOD GESTUREcOK GESTUREaPERSON BOWING DEEPLY",
       "aSEE-NO-EVIL MONKEYaHEAR-NO-EVIL MONKEYaSPEAK-NO-EVIL MONKEY",
       "aHAPPY PERSON RAISING ONE HANDaPERSON RAISING BOTH HANDS IN CELEBRATIONbFROWNING",
       "bWITH POUTING FACEcFOLDED HANDSaNORTH WEST POINTING LEAFaSOUTH WEST POINTING LEAF",
       "aNORTH EAST POINTING LEAFaSOUTH EAST POINTING LEAFaTURNED NORTH WEST POINTING LEAF",
       "bSOUTH WEST POINTING LEAFbNORTH EAST POINTING LEAFbSOUTH EAST POINTING LEAF",
       "aNORTH WEST POINTING VINE LEAFaSOUTH WEST POINTING VINE LEAF",
       "aNORTH EAST POINTING VINE LEAFaSOUTH EAST POINTING VINE LEAF",
       "aHEAVY NORTH WEST POINTING VINE LEAFbSOUTH WEST POINTING VINE LEAF",
       "bNORTH EAST POINTING VINE LEAFbSOUTH EAST POINTING VINE LEAFaNORTH WEST POINTING BUD",
       "aSOUTH WEST POINTING BUDaNORTH EAST POINTING BUDaSOUTH EAST POINTING BUD",
       "aHEAVY NORTH WEST POINTING BUDbSOUTH WEST POINTING BUDbNORTH EAST POINTING BUD",
       "bSOUTH EAST POINTING BUDaHOLLOW QUILT SQUARE ORNAMENTdORNAMENT IN BLACK SQUARE",
       "aSOLID QUILT SQUARE ORNAMENTdORNAMENT IN BLACK SQUAREaLEFTWARDS ROCKETaUPWARDS ROCKET",
       "aRIGHTWARDS ROCKETaDOWNWARDS ROCKETaSCRIPT LIGATURE ET ORNAMENT",
       "aHEAVY SCRIPT LIGATURE ET ORNAMENTaLIGATURE OPEN ET ORNAMENT",
       "aHEAVY LIGATURE OPEN ET ORNAMENTbAMPERSAND ORNAMENTaSWASH AMPERSAND ORNAMENT",
       "aSANS-SERIF HEAVY DOUBLE TURNED COMMA QUOTATION MARK ORNAMENT",
       "eCOMMA QUOTATION MARK ORNAMENTdLOW DOUBLE COMMA QUOTATION MARK ORNAMENT",
       "aHEAVY INTERROBANG ORNAMENTaSANS-SERIF INTERROBANG ORNAMENT",
       "aHEAVY SANS-SERIF INTERROBANG ORNAMENTaVERY HEAVY SOLIDUScREVERSE SOLIDUS",
       "aCHECKER BOARDaREVERSE CHECKER BOARDaROCKETaHELICOPTERaSTEAM LOCOMOTIVEaRAILWAY CAR",
       "aHIGH-SPEED TRAINcTRAIN WITH BULLET NOSEaTRAINaMETROaLIGHT RAILaSTATIONaTRAMaTRAM CAR",
       "aBUSaONCOMING BUSaTROLLEYBUSaBUS STOPaMINIBUSaAMBULANCEaFIRE ENGINEaPOLICE CAR",
       "aONCOMING POLICE CARaTAXIaONCOMING TAXIaAUTOMOBILEaONCOMING AUTOMOBILE",
       "aRECREATIONAL VEHICLEaDELIVERY TRUCKaARTICULATED LORRYaTRACTORaMONORAIL",
       "aMOUNTAIN RAILWAYaSUSPENSION RAILWAYaMOUNTAIN CABLEWAYaAERIAL TRAMWAYaSHIPaROWBOAT",
       "aSPEEDBOATaHORIZONTAL TRAFFIC LIGHTaVERTICAL TRAFFIC LIGHTaCONSTRUCTION SIGN",
       "aPOLICE CARS REVOLVING LIGHTaTRIANGULAR FLAG ON POSTaDOORaNO ENTRY SIGN",
       "aSMOKING SYMBOLaNO SMOKING SYMBOLaPUT LITTER IN ITS PLACE SYMBOLaDO NOT LITTER SYMBOL",
       "aPOTABLE WATER SYMBOLaNON-POTABLE WATER SYMBOLaBICYCLEaNO BICYCLESaBICYCLIST",
       "aMOUNTAIN BICYCLISTaPEDESTRIANaNO PEDESTRIANSaCHILDREN CROSSINGaMENS SYMBOL",
       "aWOMENS SYMBOLaRESTROOMaBABY SYMBOLaTOILETaWATER CLOSETaSHOWERaBATHaBATHTUB",
       "aPASSPORT CONTROLaCUSTOMSaBAGGAGE CLAIMaLEFT LUGGAGEaTRIANGLE WITH ROUNDED CORNERS",
       "aPROHIBITED SIGNaCIRCLED INFORMATION SOURCEaBOYS SYMBOLaGIRLS SYMBOLaCOUCH AND LAMP",
       "aSLEEPING ACCOMMODATIONaSHOPPING BAGSaBELLHOP BELLaBEDaPLACE OF WORSHIP",
       "aOCTAGONAL SIGNaSHOPPING TROLLEYaSTUPAaPAGODAaHINDU TEMPLEaHUTaELEVATOR"]⟩,
    ⟨0x1F6DD,
      ["aPLAYGROUND SLIDEaWHEELaRING BUOYaHAMMER AND WRENCHaSHIELDaOIL DRUMaMOTORWAY",
       "aRAILWAY TRACKaMOTOR BOATaUP-POINTING MILITARY AIRPLANEcAIRPLANEcSMALL AIRPLANE",
       "aSMALL AIRPLANEaNORTHEAST-POINTING AIRPLANEaAIRPLANE DEPARTUREbARRIVING"]⟩,
    ⟨0x1F6F0,
      ["aSATELLITEaONCOMING FIRE ENGINEaDIESEL LOCOMOTIVEaPASSENGER SHIPaSCOOTER",
       "aMOTOR SCOOTERaCANOEaSLEDaFLYING SAUCERaSKATEBOARDaAUTO RICKSHAWaPICKUP TRUCK",
       "aROLLER SKATE"]⟩,
    ⟨0x1F700,
      ["aALCHEMICAL SYMBOL FOR QUINTESSENCEdAIRdFIREdEARTHdWATERdAQUAFORTISdAQUA REGIA",
       "eREGIA-2eVITAEeVITAE-2dVINEGARdVINEGAR-2e3dSULFURdPHILOSOPHERS SULFURdBLACK SULFUR",
       "dMERCURY SUBLIMATEeSUBLIMATE-2f3dCINNABARdSALTdNITREdVITRIOLdVITRIOL-2dROCK SALT",
       "eSALT-2dGOLDdSILVERdIRON OREeORE-2dCROCUS OF IRONdREGULUS OF IRONdCOPPER ORE",
       "dIRON-COPPER OREdSUBLIMATE OF COPPERdCROCUS OF COPPERfCOPPER-2dCOPPER ANTIMONIATE",
       "dSALT OF COPPER ANTIMONIATEdSUBLIMATE OF SALT OF COPPERdVERDIGRISdTIN OREdLEAD ORE",
       "dANTIMONY OREdSUBLIMATE OF ANTIMONYdSALT OF ANTIMONYdSUBLIMATE OF SALT OF ANTIMONY",
       "dVINEGAR OF ANTIMONYdREGULUS OF ANTIMONYfANTIMONY-2dREGULUSdREGULUS-2e3e4dALKALI",
       "dALKALI-2dMARCASITEdSAL-AMMONIACdARSENICdREALGARdREALGAR-2dAURIPIGMENTdBISMUTH ORE",
       "dTARTARdTARTAR-2dQUICK LIMEdBORAXdBORAX-2e3dALUMdOILdSPIRITdTINCTUREdGUMdWAXdPOWDER",
       "dCALXdTUTTYdCAPUT MORTUUMdSCEPTER OF JOVEdCADUCEUSdTRIDENTdSTARRED TRIDENTdLODESTONE",
       "dSOAPdURINEdHORSE DUNGdASHESdPOT ASHESdBRICKdPOWDERED BRICKdAMALGAM",
       "dSTRATUM SUPER STRATUMfSTRATUM-2dSUBLIMATIONdPRECIPITATEdDISTILLdDISSOLVEdDISSOLVE-2",
       "dPURIFYdPUTREFACTIONdCRUCIBLEdCRUCIBLE-2e3e4e5dALEMBICdBATH OF MARYfVAPOURSdRETORT",
       "dHOURdNIGHTdDAY-NIGHTdMONTHdHALF DRAMeOUNCE"]⟩,
    ⟨0x1F780,
      ["aBLACK LEFT-POINTING ISOSCELES RIGHT TRIANGLEbUP-POINTING ISOSCELES RIGHT TRIANGLE",
       "bRIGHT-POINTING ISOSCELES RIGHT TRIANGLEbDOWN-POINTING ISOSCELES RIGHT TRIANGLE",
       "bSLIGHTLY SMALL CIRCLEaMEDIUM BOLD WHITE CIRCLEaBOLD WHITE CIRCLEaHEAVY WHITE CIRCLE",
       "aVERY HEAVY WHITE CIRCLEaEXTREMELY HEAVY WHITE CIRCLE",
       "aWHITE CIRCLE CONTAINING BLACK SMALL CIRCLEaROUND TARGETaBLACK TINY SQUARE",
       "bSLIGHTLY SMALL SQUAREaLIGHT WHITE SQUAREaMEDIUM WHITE SQUAREaBOLD WHITE SQUARE",
       "aHEAVY WHITE SQUAREaVERY HEAVY WHITE SQUAREaEXTREMELY HEAVY WHITE SQUARE",
       "aWHITE SQUARE CONTAINING BLACK VERY SMALL SQUAREeMEDIUM SQUAREaSQUARE TARGET",
       "aBLACK TINY DIAMONDbVERY SMALL DIAMONDbMEDIUM SMALL DIAMOND",
       "aWHITE DIAMOND CONTAINING BLACK VERY SMALL DIAMONDeMEDIUM DIAMONDaDIAMOND TARGET",
       "aBLACK TINY LOZENGEbVERY SMALL LOZENGEbMEDIUM SMALL LOZENGE",
       "aWHITE LOZENGE CONTAINING BLACK SMALL LOZENGEaTHIN GREEK CROSSaLIGHT GREEK CROSS",
       "aMEDIUM GREEK CROSSaBOLD GREEK CROSSaVERY BOLD GREEK CROSSbHEAVY GREEK CROSS",
       "aEXTREMELY HEAVY GREEK CROSSaTHIN SALTIREaLIGHT SALTIREaMEDIUM SALTIREaBOLD SALTIRE",
       "aHEAVY SALTIREaVERY HEAVY SALTIREaEXTREMELY HEAVY SALTIREaLIGHT FIVE SPOKED ASTERISK",
       "aMEDIUM FIVE SPOKED ASTERISKaBOLD FIVE SPOKED ASTERISKaHEAVY FIVE SPOKED ASTERISK",
       "aVERY HEAVY FIVE SPOKED ASTERISKaEXTREMELY HEAVY FIVE SPOKED ASTERISK",
       "aLIGHT SIX SPOKED ASTERISKaMEDIUM SIX SPOKED ASTERISKaBOLD SIX SPOKED ASTERISK",
       "aHEAVY SIX SPOKED ASTERISKaVERY HEAVY SIX SPOKED ASTERISK",
       "aEXTREMELY HEAVY SIX SPOKED ASTERISKaLIGHT EIGHT SPOKED ASTERISK",
       "aMEDIUM EIGHT SPOKED ASTERISKaBOLD EIGHT SPOKED ASTERISKaHEAVY EIGHT SPOKED ASTERISK",
       "aVERY HEAVY EIGHT SPOKED ASTERISKaLIGHT THREE POINTED BLACK STAR",
       "aMEDIUM THREE POINTED BLACK STARaTHREE POINTED BLACK STAR",
       "aMEDIUM THREE POINTED PINWHEEL STARaLIGHT FOUR POINTED BLACK STAR",
       "aMEDIUM FOUR POINTED BLACK STARaFOUR POINTED BLACK STAR",
       "aMEDIUM FOUR POINTED PINWHEEL STARaREVERSE LIGHT FOUR POINTED PINWHEEL STAR",
       "aLIGHT FIVE POINTED BLACK STARaHEAVY FIVE POINTED BLACK STAR",
       "aMEDIUM SIX POINTED BLACK STARaHEAVY SIX POINTED BLACK STARaSIX POINTED PINWHEEL STAR",
       "aMEDIUM EIGHT POINTED BLACK STARaHEAVY EIGHT POINTED BLACK STAR",
       "aVERY HEAVY EIGHT POINTED BLACK STARaHEAVY EIGHT POINTED PINWHEEL STAR",
       "aLIGHT TWELVE POINTED BLACK STARaHEAVY TWELVE POINTED BLACK STARdPINWHEEL STAR",
       "aCIRCLED TRIANGLEaNEGATIVE CIRCLED TRIANGLEaCIRCLED SQUAREaNEGATIVE CIRCLED SQUARE"]⟩,
    ⟨0x1F7E0,
      ["aLARGE ORANGE CIRCLEbYELLOW CIRCLEbGREEN CIRCLEbPURPLE CIRCLEbBROWN CIRCLEbRED SQUARE",
       "bBLUE SQUAREbORANGE SQUAREbYELLOW SQUAREbGREEN SQUAREbPURPLE SQUAREbBROWN SQUARE"]⟩,
    ⟨0x1F7F0, ["aHEAVY EQUALS SIGN"]⟩,
    ⟨0x1F800,
      ["aLEFTWARDS ARROW WITH SMALL TRIANGLE ARROWHEAD",
       "aUPWARDS ARROW WITH SMALL TRIANGLE ARROWHEAD",
       "aRIGHTWARDS ARROW WITH SMALL TRIANGLE ARROWHEAD",
       "aDOWNWARDS ARROW WITH SMALL TRIANGLE ARROWHEAD",
       "aLEFTWARDS ARROW WITH MEDIUM TRIANGLE ARROWHEAD",
       "aUPWARDS ARROW WITH MEDIUM TRIANGLE ARROWHEAD",
       "aRIGHTWARDS ARROW WITH MEDIUM TRIANGLE ARROWHEAD",
       "aDOWNWARDS ARROW WITH MEDIUM TRIANGLE ARROWHEAD",
       "aLEFTWARDS ARROW WITH LARGE TRIANGLE ARROWHEAD",
       "aUPWARDS ARROW WITH LARGE TRIANGLE ARROWHEAD",
       "aRIGHTWARDS ARROW WITH LARGE TRIANGLE ARROWHEAD",
       "aDOWNWARDS ARROW WITH LARGE TRIANGLE ARROWHEAD"]⟩,
    ⟨0x1F810,
      ["aLEFTWARDS ARROW WITH SMALL EQUILATERAL ARROWHEAD",
       "aUPWARDS ARROW WITH SMALL EQUILATERAL ARROWHEAD",
       "aRIGHTWARDS ARROW WITH SMALL EQUILATERAL ARROWHEAD",
       "aDOWNWARDS ARROW WITH SMALL EQUILATERAL ARROWHEAD",
       "aLEFTWARDS ARROW WITH EQUILATERAL ARROWHEADaUPWARDS ARROW WITH EQUILATERAL ARROWHEAD",
       "aRIGHTWARDS ARROW WITH EQUILATERAL ARROWHEAD",
       "aDOWNWARDS ARROW WITH EQUILATERAL ARROWHEAD",
       "aHEAVY LEFTWARDS ARROW WITH EQUILATERAL ARROWHEAD",
       "bUPWARDS ARROW WITH EQUILATERAL ARROWHEADbRIGHTWARDS ARROW WITH EQUILATERAL ARROWHEAD",
       "bDOWNWARDS ARROW WITH EQUILATERAL ARROWHEAD",
       "bLEFTWARDS ARROW WITH LARGE EQUILATERAL ARROWHEAD",
       "bUPWARDS ARROW WITH LARGE EQUILATERAL ARROWHEAD",
       "bRIGHTWARDS ARROW WITH LARGE EQUILATERAL ARROWHEAD",
       "bDOWNWARDS ARROW WITH LARGE EQUILATERAL ARROWHEAD",
       "aLEFTWARDS TRIANGLE-HEADED ARROW WITH NARROW SHAFT",
       "aUPWARDS TRIANGLE-HEADED ARROW WITH NARROW SHAFT",
       "aRIGHTWARDS TRIANGLE-HEADED ARROW WITH NARROW SHAFT",
       "aDOWNWARDS TRIANGLE-HEADED ARROW WITH NARROW SHAFT",
       "aLEFTWARDS TRIANGLE-HEADED ARROW WITH MEDIUM SHAFT",
       "aUPWARDS TRIANGLE-HEADED ARROW WITH MEDIUM SHAFT",
       "aRIGHTWARDS TRIANGLE-HEADED ARROW WITH MEDIUM SHAFT",
       "aDOWNWARDS TRIANGLE-HEADED ARROW WITH MEDIUM SHAFT",
       "aLEFTWARDS TRIANGLE-HEADED ARROW WITH BOLD SHAFT",
       "aUPWARDS TRIANGLE-HEADED ARROW WITH BOLD SHAFT",
       "aRIGHTWARDS TRIANGLE-HEADED ARROW WITH BOLD SHAFT",
       "aDOWNWARDS TRIANGLE-HEADED ARROW WITH BOLD SHAFT",
       "aLEFTWARDS TRIANGLE-HEADED ARROW WITH HEAVY SHAFT",
       "aUPWARDS TRIANGLE-HEADED ARROW WITH HEAVY SHAFT",
       "aRIGHTWARDS TRIANGLE-HEADED ARROW WITH HEAVY SHAFT",
       "aDOWNWARDS TRIANGLE-HEADED ARROW WITH HEAVY SHAFT",
       "aLEFTWARDS TRIANGLE-HEADED ARROW WITH VERY HEAVY SHAFT",
       "aUPWARDS TRIANGLE-HEADED ARROW WITH VERY HEAVY SHAFT",
       "aRIGHTWARDS TRIANGLE-HEADED ARROW WITH VERY HEAVY SHAFT",
       "aDOWNWARDS TRIANGLE-HEADED ARROW WITH VERY HEAVY SHAFTaLEFTWARDS FINGER-POST ARROW",
       "aUPWARDS FINGER-POST ARROWaRIGHTWARDS FINGER-POST ARROWaDOWNWARDS FINGER-POST ARROW",
       "aLEFTWARDS SQUARED ARROWaUPWARDS SQUARED ARROWaRIGHTWARDS SQUARED ARROW",
       "aDOWNWARDS SQUARED ARROWaLEFTWARDS COMPRESSED ARROWaUPWARDS COMPRESSED ARROW",
       "aRIGHTWARDS COMPRESSED ARROWaDOWNWARDS COMPRESSED ARROW",
       "aLEFTWARDS HEAVY COMPRESSED ARROWaUPWARDS HEAVY COMPRESSED ARROW",
       "aRIGHTWARDS HEAVY COMPRESSED ARROWaDOWNWARDS HEAVY COMPRESSED ARROW",
       "aLEFTWARDS HEAVY ARROWaUPWARDS HEAVY ARROWaRIGHTWARDS HEAVY ARROW",
       "aDOWNWARDS HEAVY ARROW"]⟩,
    ⟨0x1F850,
      ["aLEFTWARDS SANS-SERIF ARROWaUPWARDS SANS-SERIF ARROWaRIGHTWARDS SANS-SERIF ARROW",
       "aDOWNWARDS SANS-SERIF ARROWaNORTH WEST SANS-SERIF ARROWbEAST SANS-SERIF ARROW",
       "aSOUTH EAST SANS-SERIF ARROWbWEST SANS-SERIF ARROWaLEFT RIGHT SANS-SERIF ARROW",
       "aUP DOWN SANS-SERIF ARROW"]⟩,
    ⟨0x1F860,
      ["aWIDE-HEADED LEFTWARDS LIGHT BARB ARROWcUPWARDS LIGHT BARB ARROW",
       "cRIGHTWARDS LIGHT BARB ARROWcDOWNWARDS LIGHT BARB ARROWcNORTH WEST LIGHT BARB ARROW",
       "dEAST LIGHT BARB ARROWcSOUTH EAST LIGHT BARB ARROWdWEST LIGHT BARB ARROW",
       "cLEFTWARDS BARB ARROWcUPWARDS BARB ARROWcRIGHTWARDS BARB ARROWcDOWNWARDS BARB ARROW",
       "cNORTH WEST BARB ARROWdEAST BARB ARROWcSOUTH EAST BARB ARROWdWEST BARB ARROW",
       "cLEFTWARDS MEDIUM BARB ARROWcUPWARDS MEDIUM BARB ARROWcRIGHTWARDS MEDIUM BARB ARROW",
       "cDOWNWARDS MEDIUM BARB ARROWcNORTH WEST MEDIUM BARB ARROWdEAST MEDIUM BARB ARROW",
       "cSOUTH EAST MEDIUM BARB ARROWdWEST MEDIUM BARB ARROWcLEFTWARDS HEAVY BARB ARROW",
       "cUPWARDS HEAVY BARB ARROWcRIGHTWARDS HEAVY BARB ARROWcDOWNWARDS HEAVY BARB ARROW",
       "cNORTH WEST HEAVY BARB ARROWdEAST HEAVY BARB ARROWcSOUTH EAST HEAVY BARB ARROW",
       "dWEST HEAVY BARB ARROWcLEFTWARDS VERY HEAVY BARB ARROWcUPWARDS VERY HEAVY BARB ARROW",
       "cRIGHTWARDS VERY HEAVY BARB ARROWcDOWNWARDS VERY HEAVY BARB ARROW",
       "cNORTH WEST VERY HEAVY BARB ARROWdEAST VERY HEAVY BARB ARROW",
       "cSOUTH EAST VERY HEAVY BARB ARROWdWEST VERY HEAVY BARB ARROW"]⟩,
    ⟨0x1F890,
      ["aLEFTWARDS TRIANGLE ARROWHEADaUPWARDS TRIANGLE ARROWHEAD",
       "aRIGHTWARDS TRIANGLE ARROWHEADaDOWNWARDS TRIANGLE ARROWHEAD",
       "aLEFTWARDS WHITE ARROW WITHIN TRIANGLE ARROWHEAD",
       "aUPWARDS WHITE ARROW WITHIN TRIANGLE ARROWHEAD",
       "aRIGHTWARDS WHITE ARROW WITHIN TRIANGLE ARROWHEAD",
       "aDOWNWARDS WHITE ARROW WITHIN TRIANGLE ARROWHEADaLEFTWARDS ARROW WITH NOTCHED TAIL",
       "aUPWARDS ARROW WITH NOTCHED TAILaRIGHTWARDS ARROW WITH NOTCHED TAIL",
       "aDOWNWARDS ARROW WITH NOTCHED TAILaHEAVY ARROW SHAFT WIDTH ONEeTWO THIRDSeONE HALF",
       "fTHIRDaLEFTWARDS BOTTOM-SHADED WHITE ARROWaRIGHTWARDS BOTTOM SHADED WHITE ARROW",
       "aLEFTWARDS TOP SHADED WHITE ARROWaRIGHTWARDS TOP SHADED WHITE ARROW",
       "aLEFTWARDS LEFT-SHADED WHITE ARROWaRIGHTWARDS RIGHT-SHADED WHITE ARROW",
       "aLEFTWARDS RIGHT-SHADED WHITE ARROWaRIGHTWARDS LEFT-SHADED WHITE ARROW",
       "aLEFTWARDS BACK-TILTED SHADOWED WHITE ARROW",
       "aRIGHTWARDS BACK-TILTED SHADOWED WHITE ARROW",
       "aLEFTWARDS FRONT-TILTED SHADOWED WHITE ARROW",
       "aRIGHTWARDS FRONT-TILTED SHADOWED WHITE ARROWaWHITE ARROW SHAFT WIDTH ONEeTWO THIRDS"]⟩,
    ⟨0x1F8B0, ["aARROW POINTING UPWARDS THEN NORTH WESTcRIGHTWARDS THEN CURVING SOUTH WEST"]⟩,
    ⟨0x1F900,
      ["aCIRCLED CROSS FORMEE WITH FOUR DOTSeTWO DOTScFORMEEaLEFT HALF CIRCLE WITH FOUR DOTS",
       "eTHREE DOTSeTWO DOTSeDOTcCIRCLEaDOWNWARD FACING HOOKcNOTCHED HOOKcHOOK WITH DOT",
       "cNOTCHED HOOK WITH DOTaPINCHED FINGERSaWHITE HEARTaBROWN HEARTaPINCHING HAND",
       "aZIPPER-MOUTH FACEaMONEY-MOUTH FACEaFACE WITH THERMOMETERaNERD FACEaTHINKING FACE",
       "aFACE WITH HEAD-BANDAGEaROBOT FACEaHUGGING FACEaSIGN OF THE HORNSaCALL ME HAND",
       "aRAISED BACK OF HANDaLEFT-FACING FISTaRIGHT-FACING FISTaHANDSHAKE",
       "aHAND WITH INDEX AND MIDDLE FINGERS CROSSEDaI LOVE YOU HAND SIGNaFACE WITH COWBOY HAT",
       "aCLOWN FACEaNAUSEATED FACEaROLLING ON THE FLOOR LAUGHINGaDROOLING FACEaLYING FACE",
       "aFACE PALMaSNEEZING FACEaFACE WITH ONE EYEBROW RAISEDaGRINNING FACE WITH STAR EYES",
       "dONE LARGE AND ONE SMALL EYEaFACE WITH FINGER COVERING CLOSED LIPS",
       "aSERIOUS FACE WITH SYMBOLS COVERING MOUTH",
       "aSMILING FACE WITH SMILING EYES AND HAND COVERING MOUTHaFACE WITH OPEN MOUTH VOMITING",
       "aSHOCKED FACE WITH EXPLODING HEADaPREGNANT WOMANaBREAST-FEEDINGaPALMS UP TOGETHER",
       "aSELFIEaPRINCEaMAN IN TUXEDOaMOTHER CHRISTMASaSHRUGaPERSON DOING CARTWHEELaJUGGLING",
       "aFENCERaMODERN PENTATHLONaWRESTLERSaWATER POLOaHANDBALLaDIVING MASKaWILTED FLOWER",
       "aDRUM WITH DRUMSTICKSaCLINKING GLASSESaTUMBLER GLASSaSPOONaGOAL NETaRIFLE",
       "aFIRST PLACE MEDALaSECOND PLACE MEDALaTHIRD PLACE MEDALaBOXING GLOVE",
       "aMARTIAL ARTS UNIFORMaCURLING STONEaLACROSSE STICK AND BALLaSOFTBALLaFLYING DISC",
       "aCROISSANTaAVOCADOaCUCUMBERaBACONaPOTATOaCARROTaBAGUETTE BREADaGREEN SALAD",
       "aSHALLOW PAN OF FOODaSTUFFED FLATBREADaEGGaGLASS OF MILKaPEANUTSaKIWIFRUITaPANCAKES",
       "aDUMPLINGaFORTUNE COOKIEaTAKEOUT BOXaCHOPSTICKSaBOWL WITH SPOONaCUP WITH STRAW",
       "aCOCONUTaBROCCOLIaPIEaPRETZELaCUT OF MEATaSANDWICHaCANNED FOODaLEAFY GREENaMANGO",
       "aMOON CAKEaBAGELaSMILING FACE WITH SMILING EYES AND THREE HEARTSaYAWNING FACE",
       "aSMILING FACE WITH TEARaFACE WITH PARTY HORN AND PARTY HATcUNEVEN EYES AND WAVY MOUTH",
       "aOVERHEATED FACEaFREEZING FACEaNINJAaDISGUISED FACEaFACE HOLDING BACK TEARS",
       "bWITH PLEADING EYESaSARIaLAB COATaGOGGLESaHIKING BOOTaFLAT SHOEaCRABaLION FACE",
       "aSCORPIONaTURKEYaUNICORN FACEaEAGLEaDUCKaBATaSHARKaOWLaFOX FACEaBUTTERFLYaDEER",
       "aGORILLAaLIZARDaRHINOCEROSaSHRIMPaSQUIDaGIRAFFE FACEaZEBRA FACEaHEDGEHOGaSAUROPOD",
       "aT-REXaCRICKETaKANGAROOaLLAMAaPEACOCKaHIPPOPOTAMUSaPARROTaRACCOONaLOBSTERaMOSQUITO",
       "aMICROBEaBADGERaSWANaMAMMOTHaDODOaSLOTHaOTTERaORANGUTANaSKUNKaFLAMINGOaOYSTERaBEAVER",
       "aBISONaSEALaGUIDE DOGaPROBING CANEaEMOJI COMPONENT RED HAIRcCURLY HAIRcBALD",
       "cWHITE HAIRaBONEaLEGaFOOTaTOOTHaSUPERHEROaSUPERVILLAINaSAFETY VEST",
       "aEAR WITH HEARING AIDaMOTORIZED WHEELCHAIRaMANUAL WHEELCHAIRaMECHANICAL ARMbLEG",
       "aCHEESE WEDGEaCUPCAKEaSALT SHAKERaBEVERAGE BOXaGARLICaONIONaFALAFELaWAFFLEaBUTTER",
       "aMATE DRINKaICE CUBEaBUBBLE TEAaTROLLaSTANDING PERSONaKNEELING PERSONaDEAF PERSON",
       "aFACE WITH MONOCLEaADULTaCHILDaOLDER ADULTaBEARDED PERSONaPERSON WITH HEADSCARF",
       "bIN STEAMY ROOMbCLIMBINGbIN LOTUS POSITIONaMAGEaFAIRYaVAMPIREaMERPERSONaELFaGENIE",
       "aZOMBIEaBRAINaORANGE HEARTaBILLED CAPaSCARFaGLOVESaCOATaSOCKSaRED GIFT ENVELOPE",
       "aFIRECRACKERaJIGSAW PUZZLE PIECEaTEST TUBEaPETRI DISHaDNA DOUBLE HELIXaCOMPASSaABACUS",
       "aFIRE EXTINGUISHERaTOOLBOXaBRICKaMAGNETaLUGGAGEaLOTION BOTTLEaSPOOL OF THREAD",
       "aBALL OF YARNaSAFETY PINaTEDDY BEARaBROOMaBASKETaROLL OF PAPERaBAR OF SOAPaSPONGE",
       "aRECEIPTaNAZAR AMULETaNEUTRAL CHESS KINGcQUEENcROOKcBISHOPcKNIGHTcPAWN",
       "aWHITE CHESS KNIGHT ROTATED FORTY-FIVE DEGREES",
       "aBLACK CHESS KNIGHT ROTATED FORTY-FIVE DEGREES",
       "aNEUTRAL CHESS KNIGHT ROTATED FORTY-FIVE DEGREES",
       "aWHITE CHESS KING ROTATED NINETY DEGREEScQUEEN ROTATED NINETY DEGREES",
       "cROOK ROTATED NINETY DEGREEScBISHOP ROTATED NINETY DEGREES",
       "cKNIGHT ROTATED NINETY DEGREEScPAWN ROTATED NINETY DEGREES",
       "aBLACK CHESS KING ROTATED NINETY DEGREEScQUEEN ROTATED NINETY DEGREES",
       "cROOK ROTATED NINETY DEGREEScBISHOP ROTATED NINETY DEGREES",
       "cKNIGHT ROTATED NINETY DEGREEScPAWN ROTATED NINETY DEGREES",
       "aNEUTRAL CHESS KING ROTATED NINETY DEGREEScQUEEN ROTATED NINETY DEGREES",
       "cROOK ROTATED NINETY DEGREEScBISHOP ROTATED NINETY DEGREES",
       "cKNIGHT ROTATED NINETY DEGREEScPAWN ROTATED NINETY DEGREES",
       "aWHITE CHESS KNIGHT ROTATED ONE HUNDRED THIRTY-FIVE DEGREES",
       "aBLACK CHESS KNIGHT ROTATED ONE HUNDRED THIRTY-FIVE DEGREES",
       "aNEUTRAL CHESS KNIGHT ROTATED ONE HUNDRED THIRTY-FIVE DEGREESaWHITE CHESS TURNED KING",
       "dQUEENdROOKdBISHOPdKNIGHTdPAWNaBLACK CHESS TURNED KINGdQUEENdROOKdBISHOPdKNIGHTdPAWN",
       "aNEUTRAL CHESS TURNED KINGdQUEENdROOKdBISHOPdKNIGHTdPAWN",
       "aWHITE CHESS KNIGHT ROTATED TWO HUNDRED TWENTY-FIVE DEGREES",
       "aBLACK CHESS KNIGHT ROTATED TWO HUNDRED TWENTY-FIVE DEGREES",
       "aNEUTRAL CHESS KNIGHT ROTATED TWO HUNDRED TWENTY-FIVE DEGREES",
       "aWHITE CHESS KING ROTATED TWO HUNDRED SEVENTY DEGREES",
       "cQUEEN ROTATED TWO HUNDRED SEVENTY DEGREEScROOK ROTATED TWO HUNDRED SEVENTY DEGREES",
       "cBISHOP ROTATED TWO HUNDRED SEVENTY DEGREES",
       "cKNIGHT ROTATED TWO HUNDRED SEVENTY DEGREEScPAWN ROTATED TWO HUNDRED SEVENTY DEGREES",
       "aBLACK CHESS KING ROTATED TWO HUNDRED SEVENTY DEGREES",
       "cQUEEN ROTATED TWO HUNDRED SEVENTY DEGREEScROOK ROTATED TWO HUNDRED SEVENTY DEGREES",
       "cBISHOP ROTATED TWO HUNDRED SEVENTY DEGREES",
       "cKNIGHT ROTATED TWO HUNDRED SEVENTY DEGREEScPAWN ROTATED TWO HUNDRED SEVENTY DEGREES",
       "aNEUTRAL CHESS KING ROTATED TWO HUNDRED SEVENTY DEGREES",
       "cQUEEN ROTATED TWO HUNDRED SEVENTY DEGREEScROOK ROTATED TWO HUNDRED SEVENTY DEGREES",
       "cBISHOP ROTATED TWO HUNDRED SEVENTY DEGREES",
       "cKNIGHT ROTATED TWO HUNDRED SEVENTY DEGREEScPAWN ROTATED TWO HUNDRED SEVENTY DEGREES",
       "aWHITE CHESS KNIGHT ROTATED THREE HUNDRED FIFTEEN DEGREES",
       "aBLACK CHESS KNIGHT ROTATED THREE HUNDRED FIFTEEN DEGREES",
       "aNEUTRAL CHESS KNIGHT ROTATED THREE HUNDRED FIFTEEN DEGREESaWHITE CHESS EQUIHOPPER",
       "aBLACK CHESS EQUIHOPPERaNEUTRAL CHESS EQUIHOPPER",
       "aWHITE CHESS EQUIHOPPER ROTATED NINETY DEGREES",
       "aBLACK CHESS EQUIHOPPER ROTATED NINETY DEGREES",
       "aNEUTRAL CHESS EQUIHOPPER ROTATED NINETY DEGREESaWHITE CHESS KNIGHT-QUEENdROOKdBISHOP",
       "aBLACK CHESS KNIGHT-QUEENdROOKdBISHOP"]⟩,
    ⟨0x1FA60,
      ["aXIANGQI RED GENERALcMANDARINcELEPHANTcHORSEcCHARIOTcCANNONcSOLDIERbBLACK GENERAL",
       "cMANDARINcELEPHANTcHORSEcCHARIOTcCANNONcSOLDIER"]⟩,
    ⟨0x1FA70, ["aBALLET SHOESaONE-PIECE SWIMSUITaBRIEFSaSHORTSaTHONG SANDAL"]⟩,
    ⟨0x1FA78, ["aDROP OF BLOODaADHESIVE BANDAGEaSTETHOSCOPEaX-RAYaCRUTCH"]⟩,
    ⟨0x1FA80, ["aYO-YOaKITEaPARACHUTEaBOOMERANGaMAGIC WANDaPINATAaNESTING DOLLS"]⟩,
    ⟨0x1FA90,
      ["aRINGED PLANETaCHAIRaRAZORaAXEaDIYA LAMPaBANJOaMILITARY HELMETaACCORDIONaLONG DRUM",
       "aCOINaCARPENTRY SAWaSCREWDRIVERaLADDERaHOOKaMIRRORaWINDOWaPLUNGERaSEWING NEEDLEaKNOT",
       "aBUCKETaMOUSE TRAPaTOOTHBRUSHaHEADSTONEaPLACARDaROCKaMIRROR BALLaIDENTIFICATION CARD",
       "aLOW BATTERYaHAMSA"]⟩,
    ⟨0x1FAB0,
      ["aFLYaWORMaBEETLEaCOCKROACHaPOTTED PLANTaWOODaFEATHERaLOTUSaCORALaEMPTY NEST",
       "aNEST WITH EGGS"]⟩,
    ⟨0x1FAC0,
      ["aANATOMICAL HEARTaLUNGSaPEOPLE HUGGINGaPREGNANT MANbPERSONaPERSON WITH CROWN"]⟩,
    ⟨0x1FAD0,
      ["aBLUEBERRIESaBELL PEPPERaOLIVEaFLATBREADaTAMALEaFONDUEaTEAPOTaPOURING LIQUIDaBEANS",
       "aJAR"]⟩,
    ⟨0x1FAE0,
      ["aMELTING FACEaSALUTING FACEaFACE WITH OPEN EYES AND HAND OVER MOUTHcPEEKING EYE",
       "cDIAGONAL MOUTHaDOTTED LINE FACEaBITING LIPaBUBBLES"]⟩,
    ⟨0x1FAF0,
      ["aHAND WITH INDEX FINGER AND THUMB CROSSEDaRIGHTWARDS HANDaLEFTWARDS HAND",
       "aPALM DOWN HANDbUP HANDaINDEX POINTING AT THE VIEWERaHEART HANDS"]⟩,
    ⟨0x1FB00,
      ["aBLOCK SEXTANT-1c2c12c3c13c23c123c4c14c24c124c34c134c234c1234c5c15c25c125c35c235c1235",
       "c45c145c245c1245c345c1345c2345c12345c6c16c26c126c36c136c236c1236c46c146c1246c346c1346",
       "c2346c12346c56c156c256c1256c356c1356c2356c12356c456c1456c2456c12456c3456c13456c23456",
       "aLOWER LEFT BLOCK DIAGONAL LOWER MIDDLE LEFT TO LOWER CENTREjRIGHT",
       "eUPPER MIDDLE LEFT TO LOWER CENTREjRIGHTfLEFT TO LOWER CENTRE",
       "bRIGHT BLOCK DIAGONAL UPPER MIDDLE LEFT TO UPPER CENTREjRIGHT",
       "eLOWER MIDDLE LEFT TO UPPER CENTREjRIGHTfLEFT TO UPPER CENTRE",
       "fMIDDLE LEFT TO UPPER MIDDLE RIGHTfCENTRE TO LOWER MIDDLE RIGHT",
       "fLEFT TO LOWER MIDDLE RIGHTfCENTRE TO UPPER MIDDLE RIGHTfLEFT TO UPPER MIDDLE RIGHT",
       "fCENTRE TO UPPER RIGHTbLEFT BLOCK DIAGONAL UPPER CENTRE TO UPPER MIDDLE RIGHT",
       "fLEFT TO UPPER MIDDLE RIGHTfCENTRE TO LOWER MIDDLE RIGHTfLEFT TO LOWER MIDDLE RIGHT",
       "fCENTRE TO LOWER RIGHTfMIDDLE LEFT TO LOWER MIDDLE RIGHT",
       "aUPPER RIGHT BLOCK DIAGONAL LOWER MIDDLE LEFT TO LOWER CENTREjRIGHT",
       "eUPPER MIDDLE LEFT TO LOWER CENTREjRIGHTfLEFT TO LOWER CENTRE",
       "bLEFT BLOCK DIAGONAL UPPER MIDDLE LEFT TO UPPER CENTREjRIGHT",
       "eLOWER MIDDLE LEFT TO UPPER CENTREjRIGHTfLEFT TO UPPER CENTRE",
       "fMIDDLE LEFT TO UPPER MIDDLE RIGHTfCENTRE TO LOWER MIDDLE RIGHT",
       "fLEFT TO LOWER MIDDLE RIGHTfCENTRE TO UPPER MIDDLE RIGHTfLEFT TO UPPER MIDDLE RIGHT",
       "fCENTRE TO UPPER RIGHTbRIGHT BLOCK DIAGONAL UPPER CENTRE TO UPPER MIDDLE RIGHT",
       "fLEFT TO UPPER MIDDLE RIGHTfCENTRE TO LOWER MIDDLE RIGHTfLEFT TO LOWER MIDDLE RIGHT",
       "fCENTRE TO LOWER RIGHTfMIDDLE LEFT TO LOWER MIDDLE RIGHT",
       "bAND RIGHT AND LOWER TRIANGULAR THREE QUARTERS BLOCK",
       "aLEFT AND LOWER AND RIGHT TRIANGULAR THREE QUARTERS BLOCK",
       "aUPPER AND LEFT AND LOWER TRIANGULAR THREE QUARTERS BLOCK",
       "aLEFT AND UPPER AND RIGHT TRIANGULAR THREE QUARTERS BLOCK",
       "bTRIANGULAR ONE QUARTER BLOCKaUPPER TRIANGULAR ONE QUARTER BLOCK",
       "aRIGHT TRIANGULAR ONE QUARTER BLOCKaLOWER TRIANGULAR ONE QUARTER BLOCK",
       "aVERTICAL ONE EIGHTH BLOCK-2e3e4e5e6e7aHORIZONTAL ONE EIGHTH BLOCK-2e3e4e5e6e7",
       "aLEFT AND LOWER ONE EIGHTH BLOCKcUPPER ONE EIGHTH BLOCK",
       "aRIGHT AND UPPER ONE EIGHTH BLOCKcLOWER ONE EIGHTH BLOCK",
       "aUPPER AND LOWER ONE EIGHTH BLOCKaHORIZONTAL ONE EIGHTH BLOCK-1358",
       "aUPPER ONE QUARTER BLOCKbTHREE EIGHTHS BLOCKbFIVE EIGHTHS BLOCKbTHREE QUARTERS BLOCK",
       "bSEVEN EIGHTHS BLOCKaRIGHT ONE QUARTER BLOCKbTHREE EIGHTHS BLOCKbFIVE EIGHTHS BLOCK",
       "bTHREE QUARTERS BLOCKbSEVEN EIGHTHS BLOCKaLEFT HALF MEDIUM SHADE",
       "aRIGHT HALF MEDIUM SHADEaUPPER HALF MEDIUM SHADEaLOWER HALF MEDIUM SHADE",
       "aINVERSE MEDIUM SHADEaUPPER HALF BLOCK AND LOWER HALF INVERSE MEDIUM SHADE",
       "cINVERSE MEDIUM SHADE AND LOWER HALF BLOCK"]⟩,
    ⟨0x1FB94,
      ["aLEFT HALF INVERSE MEDIUM SHADE AND RIGHT HALF BLOCKaCHECKER BOARD FILL",
       "aINVERSE CHECKER BOARD FILLaHEAVY HORIZONTAL FILLaUPPER LEFT TO LOWER RIGHT FILL",
       "bRIGHT TO LOWER LEFT FILLbAND LOWER TRIANGULAR HALF BLOCK",
       "aLEFT AND RIGHT TRIANGULAR HALF BLOCKaUPPER LEFT TRIANGULAR MEDIUM SHADE",
       "bRIGHT TRIANGULAR MEDIUM SHADEaLOWER RIGHT TRIANGULAR MEDIUM SHADE",
       "bLEFT TRIANGULAR MEDIUM SHADEaBOX DRAWINGS LIGHT DIAGONAL UPPER CENTRE TO MIDDLE LEFT",
       "iRIGHTeMIDDLE LEFT TO LOWER CENTREfRIGHT TO LOWER CENTRE",
       "eUPPER CENTRE TO MIDDLE LEFT TO LOWER CENTREiRIGHT TO LOWER CENTRE",
       "eMIDDLE LEFT TO LOWER CENTRE TO MIDDLE RIGHThUPPER CENTRE TO MIDDLE RIGHT",
       "eUPPER CENTRE TO MIDDLE LEFT AND MIDDLE RIGHT TO LOWER CENTRE",
       "iRIGHT AND MIDDLE LEFT TO LOWER CENTREjTO LOWER CENTRE TO MIDDLE LEFT",
       "iLEFT TO LOWER CENTRE TO MIDDLE RIGHT",
       "eMIDDLE LEFT TO UPPER CENTRE TO MIDDLE RIGHT TO LOWER CENTRE",
       "fRIGHT TO UPPER CENTRE TO MIDDLE LEFT TO LOWER CENTREeDIAMOND",
       "dHORIZONTAL WITH VERTICAL STROKEaARROWHEAD-SHAPED POINTERaINVERSE CHECK MARK",
       "aLEFT HALF RUNNING MANaRIGHT HALF RUNNING MAN",
       "aINVERSE DOWNWARDS ARROW WITH TIP LEFTWARDS",
       "aLEFTWARDS ARROW AND UPPER AND LOWER ONE EIGHTH BLOCK",
       "aRIGHTWARDS ARROW AND UPPER AND LOWER ONE EIGHTH BLOCK",
       "aDOWNWARDS ARROW AND RIGHT ONE EIGHTH BLOCKaUPWARDS ARROW AND RIGHT ONE EIGHTH BLOCK",
       "aLEFT HALF FOLDERaRIGHT HALF FOLDERaVOIDED GREEK CROSSaRIGHT OPEN SQUARED DOT",
       "aNEGATIVE DIAGONAL CROSScMIDDLE RIGHT TO LOWER CENTREcDIAMOND",
       "aWHITE HEAVY SALTIRE WITH ROUNDED CORNERSaLEFT THIRD WHITE RIGHT POINTING INDEX",
       "aMIDDLE THIRD WHITE RIGHT POINTING INDEXaRIGHT THIRD WHITE RIGHT POINTING INDEX",
       "aNEGATIVE SQUARED QUESTION MARKaSTICK FIGUREbFIGURE WITH ARMS RAISEDcLEANING LEFT",
       "dRIGHTcWITH DRESSaWHITE UP-POINTING CHEVRON"]⟩,
    ⟨0x1FBF0, ["aSEGMENTED DIGIT ZEROcONEcTWOcTHREEcFOURcFIVEcSIXcSEVENcEIGHTcNINE"]⟩,
    ⟨0xE0001, ["aLANGUAGE TAG"]⟩,
    ⟨0xE0020,
      ["aTAG SPACEbEXCLAMATION MARKbQUOTATION MARKbNUMBER SIGNbDOLLAR SIGNbPERCENT SIGN",
       "bAMPERSANDbAPOSTROPHEbLEFT PARENTHESISbRIGHT PARENTHESISbASTERISKbPLUS SIGNbCOMMA",
       "bHYPHEN-MINUSbFULL STOPbSOLIDUSbDIGIT ZEROcONEcTWOcTHREEcFOURcFIVEcSIXcSEVENcEIGHT",
       "cNINEbCOLONbSEMICOLONbLESS-THAN SIGNbEQUALS SIGNbGREATER-THAN SIGNbQUESTION MARK",
       "bCOMMERCIAL ATbLATIN CAPITAL LETTER AeBeCeDeEeFeGeHeIeJeKeLeMeNeOePeQeReSeTeUeVeWeXeY",
       "eZbLEFT SQUARE BRACKETbREVERSE SOLIDUSbRIGHT SQUARE BRACKETbCIRCUMFLEX ACCENT",
       "bLOW LINEbGRAVE ACCENTbLATIN SMALL LETTER AeBeCeDeEeFeGeHeIeJeKeLeMeNeOePeQeReSeTeUeV",
       "eWeXeYeZbLEFT CURLY BRACKETbVERTICAL LINEbRIGHT CURLY BRACKETbTILDEaCANCEL TAG"]⟩,
    ⟨0xE0100,
      ["aVARIATION SELECTOR-17c18c19c20c21c22c23c24c25c26c27c28c29c30c31c32c33c34c35c36c37c38",
       "c39c40c41c42c43c44c45c46c47c48c49c50c51c52c53c54c55c56c57c58c59c60c61c62c63c64c65c66",
       "c67c68c69c70c71c72c73c74c75c76c77c78c79c80c81c82c83c84c85c86c87c88c89c90c91c92c93c94",
       "c95c96c97c98c99c100c101c102c103c104c105c106c107c108c109c110c111c112c113c114c115c116",
       "c117c118c119c120c121c122c123c124c125c126c127c128c129c130c131c132c133c134c135c136c137",
       "c138c139c140c141c142c143c144c145c146c147c148c149c150c151c152c153c154c155c156c157c158",
       "c159c160c161c162c163c164c165c166c167c168c169c170c171c172c173c174c175c176c177c178c179",
       "c180c181c182c183c184c185c186c187c188c189c190c191c192c193c194c195c196c197c198c199c200",
       "c201c202c203c204c205c206c207c208c209c210c211c212c213c214c215c216c217c218c219c220c221",
       "c222c223c224c225c226c227c228c229c230c231c232c233c234c235c236c237c238c239c240c241c242",
       "c243c244c245c246c247c248c249c250c251c252c253c254c255c256"]⟩ ]

end Text

end GradleMigration
