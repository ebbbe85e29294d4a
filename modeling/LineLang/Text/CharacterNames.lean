/-!
# Names of characters

The names and other names of all characters whose names follow no rule, in alphabetical order.
-/

namespace LineLang.Text

/-- The names, in words with blanks between them. A small letter before a word begins a new name and
says how many words of the name before it are repeated: none for `a`, one for `b`, and so on. -/
def characterNames : String := "
  aABACUS aAC CURRENT aACCORDION aACCOUNT OF aACK aACKNOWLEDGE aACTIVATE ARABIC FORM SHAPING
  bSYMMETRIC SWAPPING aACUTE ACCENT bANGLE aADDRESSED TO THE SUBJECT aADHESIVE BANDAGE aADI SHAKTI
  aADLAM ALIF LENGTHENER bCAPITAL LETTER ALIF dBA dBHE dCHI dDAALI dDHA dE dFA dGA dGBE dHA dI
  dJIIM dKAF dKHA dKPO dLAAM dMIIM dNHA dNUN dNYA dO dPE dQAAF dRA dSHA dSINNYIIYHE dTU dU dVA dWAW
  dYA dYHE dZAL bCONSONANT MODIFIER bDIGIT EIGHT cFIVE cFOUR cNINE cONE cSEVEN cSIX cTHREE cTWO
  cZERO bGEMINATE CONSONANT MODIFIER bGEMINATION MARK bHAMZA bINITIAL EXCLAMATION MARK cQUESTION
  MARK bNASALIZATION MARK bNUKTA bSMALL LETTER ALIF dBA dBHE dCHI dDAALI dDHA dE dFA dGA dGBE dHA
  dI dJIIM dKAF dKHA dKPO dLAAM dMIIM dNHA dNUN dNYA dO dPE dQAAF dRA dSHA dSINNYIIYHE dTU dU dVA
  dWAW dYA dYHE dZAL bVOWEL LENGTHENER aADMETOS aADMISSION TICKETS aADULT aAEGEAN CHECK MARK bDRY
  MEASURE FIRST SUBUNIT bLIQUID MEASURE FIRST SUBUNIT bMEASURE SECOND SUBUNIT cTHIRD SUBUNIT
  bNUMBER EIGHT dHUNDRED dTHOUSAND cEIGHTY dTHOUSAND cFIFTY dTHOUSAND cFIVE dHUNDRED dTHOUSAND
  cFORTY dTHOUSAND cFOUR dHUNDRED dTHOUSAND cNINE dHUNDRED dTHOUSAND cNINETY dTHOUSAND cONE
  dHUNDRED dTHOUSAND cSEVEN dHUNDRED dTHOUSAND cSEVENTY dTHOUSAND cSIX dHUNDRED dTHOUSAND cSIXTY
  dTHOUSAND cTEN dTHOUSAND cTHIRTY dTHOUSAND cTHREE dHUNDRED dTHOUSAND cTWENTY dTHOUSAND cTWO
  dHUNDRED dTHOUSAND bWEIGHT BASE UNIT cFIRST SUBUNIT cFOURTH SUBUNIT cSECOND SUBUNIT cTHIRD
  SUBUNIT bWORD SEPARATOR DOT dLINE aAERIAL TRAMWAY aAFGHANI SIGN aAHOM CONSONANT SIGN MEDIAL LA
  eLIGATING RA eRA bDIGIT EIGHT cFIVE cFOUR cNINE cONE cSEVEN cSIX cTHREE cTWO cZERO bLETTER A
  cALTERNATE BA dGA dTA cBA cBHA cCA cCHA cDA cDDA cDDHA cDHA cGA cGHA cHA cJA cJHA cKA cKHA cLA
  cLLA cMA cNA cNGA cNNA cNYA cPA cPHA cRA cSA cTA cTHA cTTA cTTHA bNUMBER TEN cTWENTY bSIGN KILLER
  cRULAI cSECTION cSMALL SECTION bSYMBOL VI bVOWEL SIGN A dAA dAI dAM dAW dE dI dII dO dU dUU
  aAIRPLANE bARRIVING bDEPARTURE aAKTIESELSKAB aALARM CLOCK aALCHEMICAL SYMBOL FOR AIR dALEMBIC
  dALKALI dALKALI-2 dALUM dAMALGAM dANTIMONY ORE dAQUA REGIA eREGIA-2 eVITAE eVITAE-2 dAQUAFORTIS
  dARSENIC dASHES dAURIPIGMENT dBATH OF MARY fVAPOURS dBISMUTH ORE dBLACK SULFUR dBORAX dBORAX-2
  dBORAX-3 dBRICK dCADUCEUS dCALX dCAPUT MORTUUM dCINNABAR dCOPPER ANTIMONIATE eORE dCROCUS OF
  COPPER fCOPPER-2 fIRON dCRUCIBLE dCRUCIBLE-2 dCRUCIBLE-3 dCRUCIBLE-4 dCRUCIBLE-5 dDAY-NIGHT
  dDISSOLVE dDISSOLVE-2 dDISTILL dEARTH dFIRE dGOLD dGUM dHALF DRAM eOUNCE dHORSE DUNG dHOUR dIRON
  ORE eORE-2 dIRON-COPPER ORE dLEAD ORE dLODESTONE dMARCASITE dMERCURY SUBLIMATE eSUBLIMATE-2
  eSUBLIMATE-3 dMONTH dNIGHT dNITRE dOIL dPHILOSOPHERS SULFUR dPOT ASHES dPOWDER dPOWDERED BRICK
  dPRECIPITATE dPURIFY dPUTREFACTION dQUICK LIME dQUINTESSENCE dREALGAR dREALGAR-2 dREGULUS eOF
  ANTIMONY fANTIMONY-2 fIRON dREGULUS-2 dREGULUS-3 dREGULUS-4 dRETORT dROCK SALT eSALT-2
  dSAL-AMMONIAC dSALT eOF ANTIMONY fCOPPER ANTIMONIATE dSCEPTER OF JOVE dSILVER dSOAP dSPIRIT
  dSTARRED TRIDENT dSTRATUM SUPER STRATUM fSTRATUM-2 dSUBLIMATE OF ANTIMONY fCOPPER fSALT OF
  ANTIMONY hCOPPER dSUBLIMATION dSULFUR dTARTAR dTARTAR-2 dTIN ORE dTINCTURE dTRIDENT dTUTTY dURINE
  dVERDIGRIS dVINEGAR eOF ANTIMONY dVINEGAR-2 dVINEGAR-3 dVITRIOL dVITRIOL-2 dWATER dWAX aALEF
  SYMBOL aALEMBIC aALERT aALIEN MONSTER aALL AROUND-PROFILE bEQUAL TO aALM aALMOST EQUAL OR EQUAL
  TO cTO dWITH CIRCUMFLEX ACCENT aALTERNATE ONE-WAY LEFT WAY TRAFFIC aALTERNATIVE KEY SYMBOL
  aAMALGAMATION OR COPRODUCT aAMBULANCE aAMERICAN FOOTBALL aAMPERSAND aAMPHORA aANATOLIAN
  HIEROGLYPH A001 cA002 cA003 cA004 cA005 cA006 cA007 cA008 cA009 cA010 cA010A cA011 cA012 cA013
  cA014 cA015 cA016 cA017 cA018 cA019 cA020 cA021 cA022 cA023 cA024 cA025 cA026 cA026A cA027 cA028
  cA029 cA030 cA031 cA032 cA033 cA034 cA035 cA036 cA037 cA038 cA039 cA039A cA040 cA041 cA041A cA042
  cA043 cA044 cA045 cA045A cA046 cA046A cA046B cA047 cA048 cA049 cA050 cA051 cA052 cA053 cA054
  cA055 cA056 cA057 cA058 cA059 cA060 cA061 cA062 cA063 cA064 cA065 cA066 cA066A cA066B cA066C
  cA067 cA068 cA069 cA070 cA071 cA072 cA073 cA074 cA075 cA076 cA077 cA078 cA079 cA080 cA081 cA082
  cA083 cA084 cA085 cA086 cA087 cA088 cA089 cA090 cA091 cA092 cA093 cA094 cA095 cA096 cA097 cA097A
  cA098 cA098A cA099 cA100 cA100A cA101 cA101A cA102 cA102A cA103 cA104 cA104A cA104B cA104C cA105
  cA105A cA105B cA106 cA107 cA107A cA107B cA107C cA108 cA109 cA110 cA110A cA110B cA111 cA112 cA113
  cA114 cA115 cA115A cA116 cA117 cA118 cA119 cA120 cA121 cA122 cA123 cA124 cA125 cA125A cA126 cA127
  cA128 cA129 cA130 cA131 cA132 cA133 cA134 cA135 cA135A cA136 cA137 cA138 cA139 cA140 cA141 cA142
  cA143 cA144 cA145 cA146 cA147 cA148 cA149 cA150 cA151 cA152 cA153 cA154 cA155 cA156 cA157 cA158
  cA159 cA160 cA161 cA162 cA163 cA164 cA165 cA166 cA167 cA168 cA169 cA170 cA171 cA172 cA173 cA174
  cA175 cA176 cA177 cA178 cA179 cA180 cA181 cA182 cA183 cA184 cA185 cA186 cA187 cA188 cA189 cA190
  cA191 cA192 cA193 cA194 cA195 cA196 cA197 cA198 cA199 cA200 cA201 cA202 cA202A cA202B cA203 cA204
  cA205 cA206 cA207 cA207A cA208 cA209 cA209A cA210 cA211 cA212 cA213 cA214 cA215 cA215A cA216
  cA216A cA217 cA218 cA219 cA220 cA221 cA222 cA223 cA224 cA225 cA226 cA227 cA227A cA228 cA229 cA230
  cA231 cA232 cA233 cA234 cA235 cA236 cA237 cA238 cA239 cA240 cA241 cA242 cA243 cA244 cA245 cA246
  cA247 cA248 cA249 cA250 cA251 cA252 cA253 cA254 cA255 cA256 cA257 cA258 cA259 cA260 cA261 cA262
  cA263 cA264 cA265 cA266 cA267 cA267A cA268 cA269 cA270 cA271 cA272 cA273 cA274 cA275 cA276 cA277
  cA278 cA279 cA280 cA281 cA282 cA283 cA284 cA285 cA286 cA287 cA288 cA289 cA289A cA290 cA291 cA292
  cA293 cA294 cA294A cA295 cA296 cA297 cA298 cA299 cA299A cA300 cA301 cA302 cA303 cA304 cA305 cA306
  cA307 cA308 cA309 cA309A cA310 cA311 cA312 cA313 cA314 cA315 cA316 cA317 cA318 cA319 cA320 cA321
  cA322 cA323 cA324 cA325 cA326 cA327 cA328 cA329 cA329A cA330 cA331 cA332A cA332B cA332C cA333
  cA334 cA335 cA336 cA336A cA336B cA336C cA337 cA338 cA339 cA340 cA341 cA342 cA343 cA344 cA345
  cA346 cA347 cA348 cA349 cA350 cA351 cA352 cA353 cA354 cA355 cA356 cA357 cA358 cA359 cA359A cA360
  cA361 cA362 cA363 cA364 cA364A cA365 cA366 cA367 cA368 cA368A cA369 cA370 cA371 cA371A cA372
  cA373 cA374 cA375 cA376 cA377 cA378 cA379 cA380 cA381 cA381A cA382 cA383 RA OR RI cA383A cA384
  cA385 cA386 cA386A cA387 cA388 cA389 cA390 cA391 cA392 cA393 EIGHT cA394 cA395 cA396 cA397 cA398
  cA399 cA400 cA401 cA402 cA403 cA404 cA405 cA406 cA407 cA408 cA409 cA410 BEGIN LOGOGRAM MARK
  cA410A END LOGOGRAM MARK cA411 cA412 cA413 cA414 cA415 cA416 cA417 cA418 cA419 cA420 cA421 cA422
  cA423 cA424 cA425 cA426 cA427 cA428 cA429 cA430 cA431 cA432 cA433 cA434 cA435 cA436 cA437 cA438
  cA439 cA440 cA441 cA442 cA443 cA444 cA445 cA446 cA447 cA448 cA449 cA450 cA450A cA451 cA452 cA453
  cA454 cA455 cA456 cA457 cA457A cA458 cA459 cA460 cA461 cA462 cA463 cA464 cA465 cA466 cA467 cA468
  cA469 cA470 cA471 cA472 cA473 cA474 cA475 cA476 cA477 cA478 cA479 cA480 cA481 cA482 cA483 cA484
  cA485 cA486 cA487 cA488 cA489 cA490 cA491 cA492 cA493 cA494 cA495 cA496 cA497 cA501 cA502 cA503
  cA504 cA505 cA506 cA507 cA508 cA509 cA510 cA511 cA512 cA513 cA514 cA515 cA516 cA517 cA518 cA519
  cA520 cA521 cA522 cA523 cA524 cA525 cA526 cA527 cA528 cA529 cA530 aANATOMICAL HEART aANCHOR aAND
  WITH DOT aANGER SYMBOL aANGLE bWITH S INSIDE cUNDERBAR aANGRY FACE aANGSTROM SIGN aANGUISHED FACE
  aANKH aANT aANTENNA WITH BARS aANTICLOCKWISE CLOSED CIRCLE ARROW bCONTOUR INTEGRAL bDOWNWARDS AND
  UPWARDS OPEN CIRCLE ARROWS bGAPPED CIRCLE ARROW bINTEGRATION bOPEN CIRCLE ARROW bTOP SEMICIRCLE
  ARROW bTRIANGLE-HEADED BOTTOM U-SHAPED ARROW cLEFT U-SHAPED ARROW cOPEN CIRCLE ARROW cRIGHT
  U-SHAPED ARROW cTOP U-SHAPED ARROW aAPC aAPL FUNCTIONAL SYMBOL ALPHA eUNDERBAR dBACKSLASH BAR
  dCIRCLE BACKSLASH eDIAERESIS eJOT eSTAR eSTILE eUNDERBAR dCOMMA BAR dDEL DIAERESIS eSTILE eTILDE
  dDELTA STILE eUNDERBAR dDIAMOND UNDERBAR dDOWN CARET TILDE eSHOE STILE eTACK JOT fUNDERBAR
  dDOWNWARDS VANE dEPSILON UNDERBAR dGREATER-THAN DIAERESIS dI-BEAM dIOTA eUNDERBAR dJOT DIAERESIS
  eUNDERBAR dLEFT SHOE STILE dLEFTWARDS VANE dOMEGA eUNDERBAR dQUAD eBACKSLASH eCIRCLE eCOLON eDEL
  eDELTA eDIAMOND eDIVIDE eDOWN CARET eDOWNWARDS ARROW eEQUAL eGREATER-THAN eJOT eLEFTWARDS ARROW
  eLESS-THAN eNOT EQUAL eQUESTION eRIGHTWARDS ARROW eSLASH eUP CARET eUPWARDS ARROW dQUOTE QUAD
  eUNDERBAR dRHO dRIGHTWARDS VANE dSEMICOLON UNDERBAR dSLASH BAR dSQUISH QUAD dSTAR DIAERESIS
  dSTILE TILDE dTILDE DIAERESIS dUP CARET TILDE eSHOE JOT eTACK DIAERESIS fJOT fOVERBAR dUPWARDS
  VANE dZILDE aAPOLLON aAPOSTROPHE aAPPLICATION PROGRAM COMMAND aAPPROACHES THE LIMIT
  aAPPROXIMATELY BUT NOT ACTUALLY EQUAL TO bEQUAL OR EQUAL TO cTO dOR THE IMAGE OF aAQUARIUS
  aARABIC BASELINE ROUND DOT bCOMMA bCURLY DAMMA cDAMMATAN cFATHA cFATHATAN cKASRA cKASRATAN bDAMMA
  cISOLATED FORM cMEDIAL FORM cWITH DOT bDAMMATAN cISOLATED FORM bDATE SEPARATOR bDECIMAL SEPARATOR
  bDISPUTED END OF AYAH bDOUBLE RIGHT ARROWHEAD ABOVE fWITH DOT bDOUBLED MADDA bEMPTY CENTRE HIGH
  STOP dLOW STOP bEND OF AYAH dTEXT MARK bFATHA cISOLATED FORM cMEDIAL FORM cWITH DOT ABOVE dRING
  dTWO DOTS bFATHATAN cISOLATED FORM bFIVE POINTED STAR bFOOTNOTE MARKER bFULL STOP bHALF MADDA
  OVER MADDA bHAMZA ABOVE cBELOW bINVERTED DAMMA bKASRA cISOLATED FORM cMEDIAL FORM cWITH DOT BELOW
  bKASRATAN cISOLATED FORM bLARGE CIRCLE BELOW cROUND DOT ABOVE eBELOW eINSIDE CIRCLE BELOW bLEFT
  ARROWHEAD ABOVE dBELOW bLETTER AE cAFRICAN FEH dNOON dQAF eWITH THREE DOTS ABOVE cAIN dFINAL FORM
  dINITIAL FORM dISOLATED FORM dMEDIAL FORM dWITH THREE DOTS ABOVE gBELOW gPOINTING DOWNWARDS ABOVE
  eTWO DOTS ABOVE gVERTICALLY ABOVE cALEF dFINAL FORM dISOLATED FORM dMAKSURA eFINAL FORM eISOLATED
  FORM dWASLA eFINAL FORM eISOLATED FORM dWITH ATTACHED BOTTOM RIGHT KASRA iAND DOT ABOVE jLEFT
  RING fFATHA fKASRA fLEFT HAMZA gROUND DOT fRIGHT HAMZA gROUND DOT fROUND DOT ABOVE hBELOW fTOP
  RIGHT FATHA iAND DOT ABOVE jLEFT RING eDOT ABOVE eEXTENDED ARABIC-INDIC DIGIT THREE ABOVE hTWO
  ABOVE eHAMZA ABOVE gFINAL FORM gISOLATED FORM fBELOW gFINAL FORM gISOLATED FORM eLEFT MIDDLE
  STROKE eMADDA ABOVE gFINAL FORM gISOLATED FORM eRIGHT MIDDLE STROKE hAND DOT ABOVE iLEFT RING
  eWAVY HAMZA ABOVE gBELOW cBEEH dFINAL FORM dINITIAL FORM dISOLATED FORM dMEDIAL FORM cBEH dFINAL
  FORM dINITIAL FORM dISOLATED FORM dMEDIAL FORM dWITH DOT BELOW AND THREE DOTS ABOVE eHAMZA ABOVE
  eINVERTED SMALL V BELOW eSMALL MEEM ABOVE fV gBELOW eTHREE DOTS HORIZONTALLY BELOW gPOINTING
  UPWARDS BELOW jAND TWO DOTS ABOVE eTWO DOTS BELOW AND DOT ABOVE cBEHEH dFINAL FORM dINITIAL FORM
  dISOLATED FORM dMEDIAL FORM cDAD dFINAL FORM dINITIAL FORM dISOLATED FORM dMEDIAL FORM dWITH DOT
  BELOW cDAHAL dFINAL FORM dISOLATED FORM cDAL dFINAL FORM dISOLATED FORM dWITH DOT BELOW gAND
  SMALL TAH eFOUR DOTS ABOVE eINVERTED SMALL V BELOW fV eRING eTHREE DOTS ABOVE DOWNWARDS gBELOW
  eTWO DOTS VERTICALLY BELOW AND SMALL TAH cDDAHAL dFINAL FORM dISOLATED FORM cDDAL dFINAL FORM
  dISOLATED FORM cDOTLESS BEH dFEH dQAF cDUL dFINAL FORM dISOLATED FORM cDYEH dFINAL FORM dINITIAL
  FORM dISOLATED FORM dMEDIAL FORM cE dFINAL FORM dINITIAL FORM dISOLATED FORM dMEDIAL FORM cFARSI
  YEH eFINAL FORM eINITIAL FORM eISOLATED FORM eMEDIAL FORM eWITH EXTENDED ARABIC-INDIC DIGIT FOUR
  BELOW iTHREE ABOVE iTWO ABOVE fINVERTED V fTHREE DOTS ABOVE fTWO DOTS ABOVE cFEH dFINAL FORM
  dINITIAL FORM dISOLATED FORM dMEDIAL FORM dWITH DOT BELOW gAND THREE DOTS ABOVE fMOVED BELOW
  eTHREE DOTS BELOW gPOINTING UPWARDS BELOW eTWO DOTS BELOW cGAF dFINAL FORM dINITIAL FORM
  dISOLATED FORM dMEDIAL FORM dWITH INVERTED STROKE eRING eTHREE DOTS ABOVE eTWO DOTS BELOW cGHAIN
  dFINAL FORM dINITIAL FORM dISOLATED FORM dMEDIAL FORM dWITH DOT BELOW eTHREE DOTS ABOVE cGRAF
  cGUEH dFINAL FORM dINITIAL FORM dISOLATED FORM dMEDIAL FORM cHAH dFINAL FORM dINITIAL FORM
  dISOLATED FORM dMEDIAL FORM dWITH EXTENDED ARABIC-INDIC DIGIT FOUR BELOW eHAMZA ABOVE eINVERTED
  SMALL V BELOW eSMALL ARABIC LETTER TAH ABOVE iAND TWO DOTS iBELOW eTHREE DOTS ABOVE gPOINTING
  UPWARDS BELOW eTWO DOTS ABOVE gVERTICAL ABOVE cHAMZA dISOLATED FORM cHEH dDOACHASHMEE eFINAL FORM
  eINITIAL FORM eISOLATED FORM eMEDIAL FORM dFINAL FORM dGOAL eFINAL FORM eINITIAL FORM eISOLATED
  FORM eMEDIAL FORM eWITH HAMZA ABOVE dINITIAL FORM dISOLATED FORM dMEDIAL FORM dWITH INVERTED V
  eYEH ABOVE gFINAL FORM gISOLATED FORM cHIGH HAMZA eALEF eWAW eYEH cJEEM dFINAL FORM dINITIAL FORM
  dISOLATED FORM dMEDIAL FORM dWITH THREE DOTS ABOVE gBELOW eTWO DOTS ABOVE cJEH dFINAL FORM
  dISOLATED FORM cKAF dFINAL FORM dINITIAL FORM dISOLATED FORM dMEDIAL FORM dWITH DOT ABOVE fBELOW
  eRING eTHREE DOTS BELOW eTWO DOTS ABOVE cKASHMIRI YEH cKEHEH dFINAL FORM dINITIAL FORM dISOLATED
  FORM dMEDIAL FORM dWITH DOT ABOVE eSMALL V eTHREE DOTS ABOVE gBELOW gPOINTING UPWARDS BELOW eTWO
  DOTS ABOVE gVERTICALLY BELOW cKHAH dFINAL FORM dINITIAL FORM dISOLATED FORM dMEDIAL FORM cKIRGHIZ
  OE eFINAL FORM eISOLATED FORM dYU eFINAL FORM eISOLATED FORM cLAM dFINAL FORM dINITIAL FORM
  dISOLATED FORM dMEDIAL FORM dWITH BAR eDOT ABOVE eDOUBLE BAR eSMALL ARABIC LETTER TAH ABOVE fV
  eTHREE DOTS ABOVE gBELOW cLOW ALEF cMARK cMEEM dFINAL FORM dINITIAL FORM dISOLATED FORM dMEDIAL
  FORM dWITH DOT ABOVE fBELOW eTHREE DOTS ABOVE cNG dFINAL FORM dINITIAL FORM dISOLATED FORM
  dMEDIAL FORM cNGOEH dFINAL FORM dINITIAL FORM dISOLATED FORM dMEDIAL FORM cNOON dFINAL FORM
  dGHUNNA eFINAL FORM eISOLATED FORM dINITIAL FORM dISOLATED FORM dMEDIAL FORM dWITH DOT BELOW
  eINVERTED SMALL V eRING eSMALL TAH fV eTHREE DOTS ABOVE eTWO DOTS BELOW cNYEH dFINAL FORM
  dINITIAL FORM dISOLATED FORM dMEDIAL FORM cOE dFINAL FORM dISOLATED FORM cPEH dFINAL FORM
  dINITIAL FORM dISOLATED FORM dMEDIAL FORM dWITH SMALL MEEM ABOVE fV cPEHEH dFINAL FORM dINITIAL
  FORM dISOLATED FORM dMEDIAL FORM cQAF dFINAL FORM dINITIAL FORM dISOLATED FORM dMEDIAL FORM dWITH
  DOT ABOVE fBELOW gAND NO DOTS ABOVE eTHREE DOTS ABOVE cREH dFINAL FORM dISOLATED FORM dWITH DOT
  BELOW gAND DOT ABOVE eFOUR DOTS ABOVE eHAMZA ABOVE eINVERTED V eLOOP eRING eSMALL ARABIC LETTER
  TAH AND TWO DOTS fNOON ABOVE fV gBELOW eSTROKE eTWO DOTS ABOVE gVERTICALLY ABOVE cRNOON dFINAL
  FORM dINITIAL FORM dISOLATED FORM dMEDIAL FORM cROHINGYA YEH cRREH dFINAL FORM dISOLATED FORM
  cSAD dFINAL FORM dINITIAL FORM dISOLATED FORM dMEDIAL FORM dWITH THREE DOTS ABOVE gBELOW eTWO
  DOTS BELOW cSEEN dFINAL FORM dINITIAL FORM dISOLATED FORM dMEDIAL FORM dWITH DOT BELOW AND DOT
  ABOVE eEXTENDED ARABIC-INDIC DIGIT FOUR ABOVE eFOUR DOTS ABOVE eINVERTED V eSMALL ARABIC LETTER
  TAH AND TWO DOTS eTHREE DOTS BELOW hAND THREE DOTS ABOVE eTWO DOTS VERTICALLY ABOVE cSHEEN dFINAL
  FORM dINITIAL FORM dISOLATED FORM dMEDIAL FORM dWITH DOT BELOW cSTRAIGHT WAW cSUPERSCRIPT ALEF
  cSWASH KAF cTAH dFINAL FORM dINITIAL FORM dISOLATED FORM dMEDIAL FORM dWITH DOT BELOW eTHREE DOTS
  ABOVE gBELOW eTWO DOTS ABOVE cTCHEH dFINAL FORM dINITIAL FORM dISOLATED FORM dMEDIAL FORM dWITH
  DOT ABOVE eSMALL V cTCHEHEH dFINAL FORM dINITIAL FORM dISOLATED FORM dMEDIAL FORM cTEH dFINAL
  FORM dINITIAL FORM dISOLATED FORM dMARBUTA eFINAL FORM eGOAL eISOLATED FORM dMEDIAL FORM dWITH
  RING eSMALL TEH ABOVE fV eTHREE DOTS ABOVE DOWNWARDS cTEHEH dFINAL FORM dINITIAL FORM dISOLATED
  FORM dMEDIAL FORM cTHAL dFINAL FORM dISOLATED FORM cTHEH dFINAL FORM dINITIAL FORM dISOLATED FORM
  dMEDIAL FORM cTHIN YEH cTTEH dFINAL FORM dINITIAL FORM dISOLATED FORM dMEDIAL FORM dWITH SMALL V
  cTTEHEH dFINAL FORM dINITIAL FORM dISOLATED FORM dMEDIAL FORM cU dFINAL FORM dISOLATED FORM dWITH
  HAMZA ABOVE gISOLATED FORM cUIGHUR KAZAKH KIRGHIZ ALEF MAKSURA INITIAL FORM hMEDIAL FORM cVE
  dFINAL FORM dISOLATED FORM cVEH dFINAL FORM dINITIAL FORM dISOLATED FORM dMEDIAL FORM cWAW dFINAL
  FORM dISOLATED FORM dWITH DOT ABOVE fWITHIN eEXTENDED ARABIC-INDIC DIGIT THREE ABOVE hTWO ABOVE
  eHAMZA ABOVE gFINAL FORM gISOLATED FORM eRING eTWO DOTS ABOVE cYEH dBARREE eFINAL FORM eISOLATED
  FORM eWITH EXTENDED ARABIC-INDIC DIGIT THREE ABOVE iTWO ABOVE fHAMZA ABOVE hFINAL FORM hISOLATED
  FORM dFINAL FORM dINITIAL FORM dISOLATED FORM dMEDIAL FORM dWITH HAMZA ABOVE gFINAL FORM gINITIAL
  FORM gISOLATED FORM gMEDIAL FORM eSMALL V eTAIL eTHREE DOTS BELOW eTWO DOTS BELOW AND DOT ABOVE
  iHAMZA ABOVE iSMALL NOON ABOVE cYU dFINAL FORM dISOLATED FORM cZAH dFINAL FORM dINITIAL FORM
  dISOLATED FORM dMEDIAL FORM cZAIN dFINAL FORM dISOLATED FORM dWITH INVERTED V ABOVE bLIGATURE AIN
  WITH ALEF MAKSURA FINAL FORM gISOLATED FORM eJEEM INITIAL FORM fISOLATED FORM fWITH MEEM FINAL
  FORM hINITIAL FORM eMEEM INITIAL FORM fISOLATED FORM fWITH ALEF MAKSURA FINAL FORM gMEEM FINAL
  FORM hINITIAL FORM gYEH FINAL FORM eYEH FINAL FORM fISOLATED FORM cAKBAR ISOLATED FORM cALAYHAA
  AS-SALAAM cALAYHE ISOLATED FORM cALAYHI AS-SALAAM dAS-SALAATU WAS-SALAAM cALAYHIM AS-SALAAM
  cALAYHIMAA AS-SALAAM cALEF MAKSURA WITH SUPERSCRIPT ALEF FINAL FORM hISOLATED FORM dWITH FATHATAN
  FINAL FORM fISOLATED FORM cALLAH ISOLATED FORM cAZZA WA JALL cBEH WITH ALEF MAKSURA FINAL FORM
  gISOLATED FORM eHAH INITIAL FORM fISOLATED FORM fWITH YEH FINAL FORM eHEH INITIAL FORM fMEDIAL
  FORM eJEEM INITIAL FORM fISOLATED FORM eKHAH INITIAL FORM fISOLATED FORM fWITH YEH FINAL FORM
  eMEEM FINAL FORM fINITIAL FORM fISOLATED FORM fMEDIAL FORM eNOON FINAL FORM eREH FINAL FORM eYEH
  FINAL FORM fISOLATED FORM eZAIN FINAL FORM cBISMILLAH AR-RAHMAN AR-RAHEEM cDAD WITH ALEF MAKSURA
  FINAL FORM gISOLATED FORM eHAH INITIAL FORM fISOLATED FORM fWITH ALEF MAKSURA FINAL FORM gYEH
  FINAL FORM eJEEM INITIAL FORM fISOLATED FORM eKHAH INITIAL FORM fISOLATED FORM fWITH MEEM FINAL
  FORM hINITIAL FORM eMEEM INITIAL FORM fISOLATED FORM eREH FINAL FORM fISOLATED FORM eYEH FINAL
  FORM fISOLATED FORM cFEH WITH ALEF MAKSURA FINAL FORM gISOLATED FORM eHAH INITIAL FORM fISOLATED
  FORM eJEEM INITIAL FORM fISOLATED FORM eKHAH INITIAL FORM fISOLATED FORM fWITH MEEM FINAL FORM
  hINITIAL FORM eMEEM INITIAL FORM fISOLATED FORM fWITH YEH FINAL FORM eYEH FINAL FORM fISOLATED
  FORM cGHAIN WITH ALEF MAKSURA FINAL FORM gISOLATED FORM eJEEM INITIAL FORM fISOLATED FORM eMEEM
  INITIAL FORM fISOLATED FORM fWITH ALEF MAKSURA FINAL FORM gMEEM FINAL FORM gYEH FINAL FORM eYEH
  FINAL FORM fISOLATED FORM cHAH WITH ALEF MAKSURA FINAL FORM gISOLATED FORM eJEEM INITIAL FORM
  fISOLATED FORM fWITH YEH FINAL FORM eMEEM INITIAL FORM fISOLATED FORM fWITH ALEF MAKSURA FINAL
  FORM gYEH FINAL FORM eYEH FINAL FORM fISOLATED FORM cHEH WITH ALEF MAKSURA ISOLATED FORM eJEEM
  INITIAL FORM fISOLATED FORM eMEEM INITIAL FORM fISOLATED FORM fWITH JEEM INITIAL FORM gMEEM
  INITIAL FORM eSUPERSCRIPT ALEF INITIAL FORM eYEH ISOLATED FORM cJALLAJALALOUHOU cJEEM WITH ALEF
  MAKSURA FINAL FORM gISOLATED FORM eHAH INITIAL FORM fISOLATED FORM fWITH ALEF MAKSURA FINAL FORM
  gYEH FINAL FORM eMEEM INITIAL FORM fISOLATED FORM fWITH ALEF MAKSURA FINAL FORM gHAH FINAL FORM
  hINITIAL FORM gYEH FINAL FORM eYEH FINAL FORM fISOLATED FORM cKAF WITH ALEF FINAL FORM fISOLATED
  FORM fMAKSURA FINAL FORM gISOLATED FORM eHAH INITIAL FORM fISOLATED FORM eJEEM INITIAL FORM
  fISOLATED FORM eKHAH INITIAL FORM fISOLATED FORM eLAM FINAL FORM fINITIAL FORM fISOLATED FORM
  fMEDIAL FORM eMEEM FINAL FORM fINITIAL FORM fISOLATED FORM fMEDIAL FORM fWITH MEEM FINAL FORM
  hINITIAL FORM gYEH FINAL FORM eYEH FINAL FORM fISOLATED FORM cKHAH WITH ALEF MAKSURA FINAL FORM
  gISOLATED FORM eHAH ISOLATED FORM eJEEM INITIAL FORM fISOLATED FORM eMEEM INITIAL FORM fISOLATED
  FORM eYEH FINAL FORM fISOLATED FORM cLAM WITH ALEF FINAL FORM fISOLATED FORM fMAKSURA FINAL FORM
  gISOLATED FORM fWITH HAMZA ABOVE FINAL FORM iISOLATED FORM hBELOW FINAL FORM iISOLATED FORM
  gMADDA ABOVE FINAL FORM iISOLATED FORM eHAH INITIAL FORM fISOLATED FORM fWITH ALEF MAKSURA FINAL
  FORM gMEEM FINAL FORM hINITIAL FORM gYEH FINAL FORM eHEH INITIAL FORM eJEEM INITIAL FORM
  fISOLATED FORM fWITH JEEM FINAL FORM hINITIAL FORM gMEEM FINAL FORM hINITIAL FORM gYEH FINAL FORM
  eKHAH INITIAL FORM fISOLATED FORM fWITH MEEM FINAL FORM hINITIAL FORM eMEEM FINAL FORM fINITIAL
  FORM fISOLATED FORM fMEDIAL FORM fWITH HAH FINAL FORM hINITIAL FORM gYEH FINAL FORM eYEH FINAL
  FORM fISOLATED FORM cMEEM WITH ALEF FINAL FORM fMAKSURA ISOLATED FORM eHAH INITIAL FORM fISOLATED
  FORM fWITH JEEM INITIAL FORM gMEEM INITIAL FORM gYEH FINAL FORM eJEEM INITIAL FORM fISOLATED FORM
  fWITH HAH INITIAL FORM gKHAH INITIAL FORM gMEEM INITIAL FORM gYEH FINAL FORM eKHAH INITIAL FORM
  fISOLATED FORM fWITH JEEM INITIAL FORM gMEEM INITIAL FORM gYEH FINAL FORM eMEEM FINAL FORM
  fINITIAL FORM fISOLATED FORM fWITH YEH FINAL FORM eYEH ISOLATED FORM cMOHAMMAD ISOLATED FORM
  cNOON WITH ALEF MAKSURA FINAL FORM gISOLATED FORM eHAH INITIAL FORM fISOLATED FORM fWITH ALEF
  MAKSURA FINAL FORM gMEEM INITIAL FORM gYEH FINAL FORM eHEH INITIAL FORM fMEDIAL FORM eJEEM
  INITIAL FORM fISOLATED FORM fWITH ALEF MAKSURA FINAL FORM gHAH FINAL FORM hINITIAL FORM gMEEM
  FINAL FORM hINITIAL FORM gYEH FINAL FORM eKHAH INITIAL FORM fISOLATED FORM eMEEM FINAL FORM
  fINITIAL FORM fISOLATED FORM fMEDIAL FORM fWITH ALEF MAKSURA FINAL FORM gYEH FINAL FORM eNOON
  FINAL FORM eREH FINAL FORM eYEH FINAL FORM fISOLATED FORM eZAIN FINAL FORM cQAF WITH ALEF MAKSURA
  FINAL FORM gISOLATED FORM eHAH INITIAL FORM fISOLATED FORM eMEEM INITIAL FORM fISOLATED FORM
  fWITH HAH FINAL FORM hINITIAL FORM gMEEM FINAL FORM gYEH FINAL FORM eYEH FINAL FORM fISOLATED
  FORM cQALA USED AS KORANIC STOP SIGN ISOLATED FORM cQUDDISA SIRRAH cRADI ALLAAHU ANH eANHAA
  eANHUM eANHUMAA eANHUNNA cRAHIMAHU ALLAAH cRAHIMAHUM ALLAAH cRASOUL ISOLATED FORM cREH WITH
  SUPERSCRIPT ALEF ISOLATED FORM cSAD WITH ALEF MAKSURA FINAL FORM gISOLATED FORM eHAH INITIAL FORM
  fISOLATED FORM fWITH HAH FINAL FORM hINITIAL FORM gYEH FINAL FORM eKHAH INITIAL FORM eMEEM
  INITIAL FORM fISOLATED FORM fWITH MEEM FINAL FORM hINITIAL FORM eREH FINAL FORM fISOLATED FORM
  eYEH FINAL FORM fISOLATED FORM cSALAAMUHU ALAYNAA cSALAM ISOLATED FORM cSALLA ISOLATED FORM dUSED
  AS KORANIC STOP SIGN ISOLATED FORM cSALLALLAAHU ALAYHI WA-AALIH cSALLALLAHOU ALAYHE WASALLAM
  cSALLALLAHU ALAYHI WAAALIHEE WA-SALLAM cSEEN WITH ALEF MAKSURA FINAL FORM gISOLATED FORM eHAH
  INITIAL FORM fISOLATED FORM fMEDIAL FORM fWITH JEEM INITIAL FORM eHEH INITIAL FORM fMEDIAL FORM
  eJEEM INITIAL FORM fISOLATED FORM fMEDIAL FORM fWITH ALEF MAKSURA FINAL FORM gHAH INITIAL FORM
  eKHAH INITIAL FORM fISOLATED FORM fMEDIAL FORM fWITH ALEF MAKSURA FINAL FORM gYEH FINAL FORM
  eMEEM INITIAL FORM fISOLATED FORM fMEDIAL FORM fWITH HAH FINAL FORM hINITIAL FORM gJEEM INITIAL
  FORM gMEEM FINAL FORM hINITIAL FORM eREH FINAL FORM fISOLATED FORM eYEH FINAL FORM fISOLATED FORM
  cSHADDA WITH DAMMA ISOLATED FORM fMEDIAL FORM eDAMMATAN ISOLATED FORM eFATHA ISOLATED FORM
  fMEDIAL FORM eKASRA ISOLATED FORM fMEDIAL FORM eKASRATAN ISOLATED FORM eSUPERSCRIPT ALEF ISOLATED
  FORM cSHEEN WITH ALEF MAKSURA FINAL FORM gISOLATED FORM eHAH FINAL FORM fINITIAL FORM fISOLATED
  FORM fMEDIAL FORM fWITH MEEM FINAL FORM hINITIAL FORM gYEH FINAL FORM eHEH INITIAL FORM fMEDIAL
  FORM eJEEM FINAL FORM fINITIAL FORM fISOLATED FORM fMEDIAL FORM fWITH YEH FINAL FORM eKHAH FINAL
  FORM fINITIAL FORM fISOLATED FORM fMEDIAL FORM eMEEM FINAL FORM fINITIAL FORM fISOLATED FORM
  fMEDIAL FORM fWITH KHAH FINAL FORM hINITIAL FORM gMEEM FINAL FORM hINITIAL FORM eREH FINAL FORM
  fISOLATED FORM eYEH FINAL FORM fISOLATED FORM cSUBHAANAHU WA TAAALAA cTABAARAKA WA-TAAALAA cTAH
  WITH ALEF MAKSURA FINAL FORM gISOLATED FORM eHAH INITIAL FORM fISOLATED FORM eMEEM INITIAL FORM
  fISOLATED FORM fMEDIAL FORM fWITH HAH FINAL FORM hINITIAL FORM gMEEM INITIAL FORM gYEH FINAL FORM
  eYEH FINAL FORM fISOLATED FORM cTEH WITH ALEF MAKSURA FINAL FORM gISOLATED FORM eHAH INITIAL FORM
  fISOLATED FORM fWITH JEEM FINAL FORM hINITIAL FORM gMEEM INITIAL FORM eHEH INITIAL FORM fMEDIAL
  FORM eJEEM INITIAL FORM fISOLATED FORM fWITH ALEF MAKSURA FINAL FORM gMEEM INITIAL FORM gYEH
  FINAL FORM eKHAH INITIAL FORM fISOLATED FORM fWITH ALEF MAKSURA FINAL FORM gMEEM INITIAL FORM
  gYEH FINAL FORM eMEEM FINAL FORM fINITIAL FORM fISOLATED FORM fMEDIAL FORM fWITH ALEF MAKSURA
  FINAL FORM gHAH INITIAL FORM gJEEM INITIAL FORM gKHAH INITIAL FORM gYEH FINAL FORM eNOON FINAL
  FORM eREH FINAL FORM eYEH FINAL FORM fISOLATED FORM eZAIN FINAL FORM cTHAL WITH SUPERSCRIPT ALEF
  ISOLATED FORM cTHEH WITH ALEF MAKSURA FINAL FORM gISOLATED FORM eHEH MEDIAL FORM eJEEM ISOLATED
  FORM eMEEM FINAL FORM fINITIAL FORM fISOLATED FORM fMEDIAL FORM eNOON FINAL FORM eREH FINAL FORM
  eYEH FINAL FORM fISOLATED FORM eZAIN FINAL FORM cUIGHUR KIRGHIZ YEH WITH HAMZA ABOVE WITH ALEF
  MAKSURA FINAL FORM lINITIAL FORM lISOLATED FORM cWASALLAM ISOLATED FORM cYEH WITH ALEF MAKSURA
  FINAL FORM gISOLATED FORM eHAH INITIAL FORM fISOLATED FORM fWITH YEH FINAL FORM eHAMZA ABOVE WITH
  AE FINAL FORM iISOLATED FORM hALEF FINAL FORM iISOLATED FORM iMAKSURA FINAL FORM jISOLATED FORM
  hE FINAL FORM iINITIAL FORM iISOLATED FORM hHAH INITIAL FORM iISOLATED FORM hHEH INITIAL FORM
  iMEDIAL FORM hJEEM INITIAL FORM iISOLATED FORM hKHAH INITIAL FORM hMEEM FINAL FORM iINITIAL FORM
  iISOLATED FORM iMEDIAL FORM hNOON FINAL FORM hOE FINAL FORM iISOLATED FORM hREH FINAL FORM hU
  FINAL FORM iISOLATED FORM hWAW FINAL FORM iISOLATED FORM hYEH FINAL FORM iISOLATED FORM hYU FINAL
  FORM iISOLATED FORM hZAIN FINAL FORM eHEH INITIAL FORM fMEDIAL FORM eJEEM INITIAL FORM fISOLATED
  FORM fWITH YEH FINAL FORM eKHAH INITIAL FORM fISOLATED FORM eMEEM FINAL FORM fINITIAL FORM
  fISOLATED FORM fMEDIAL FORM fWITH MEEM FINAL FORM hINITIAL FORM gYEH FINAL FORM eNOON FINAL FORM
  eREH FINAL FORM eYEH FINAL FORM fISOLATED FORM eZAIN FINAL FORM cZAH WITH MEEM INITIAL FORM
  fISOLATED FORM fMEDIAL FORM bMADDA WAAJIB bMADDAH ABOVE bMARK NOON GHUNNA cSIDEWAYS NOON GHUNNA
  bMATHEMATICAL AIN cALEF cBEH cDAD cDAL cDOTLESS BEH dFEH dNOON dQAF cDOUBLE-STRUCK AIN dBEH dDAD
  dDAL dFEH dGHAIN dHAH dJEEM dKHAH dLAM dMEEM dNOON dQAF dREH dSAD dSEEN dSHEEN dTAH dTEH dTHAL
  dTHEH dWAW dYEH dZAH dZAIN cFEH cGHAIN cHAH cINITIAL AIN dBEH dDAD dFEH dGHAIN dHAH dHEH dJEEM
  dKAF dKHAH dLAM dMEEM dNOON dQAF dSAD dSEEN dSHEEN dTEH dTHEH dYEH cJEEM cKAF cKHAH cLAM cLOOPED
  AIN dALEF dBEH dDAD dDAL dFEH dGHAIN dHAH dHEH dJEEM dKHAH dLAM dMEEM dNOON dQAF dREH dSAD dSEEN
  dSHEEN dTAH dTEH dTHAL dTHEH dWAW dYEH dZAH dZAIN cMEEM cNOON cOPERATOR HAH WITH DAL dMEEM WITH
  HAH WITH TATWEEL cQAF cREH cSAD cSEEN cSHEEN cSTRETCHED AIN dBEH dDAD dDOTLESS BEH eFEH dFEH
  dGHAIN dHAH dHEH dJEEM dKAF dKHAH dMEEM dNOON dQAF dSAD dSEEN dSHEEN dTAH dTEH dTHEH dYEH dZAH
  cTAH cTAILED AIN dDAD dDOTLESS NOON eQAF dGHAIN dHAH dJEEM dKHAH dLAM dNOON dQAF dSAD dSEEN
  dSHEEN dYEH cTEH cTHAL cTHEH cWAW cYEH cZAH cZAIN bNUMBER MARK ABOVE cSIGN bOPEN DAMMATAN
  cFATHATAN cKASRATAN bPERCENT SIGN bPIASTRE MARK ABOVE bPLACE OF SAJDAH bPOETIC VERSE SIGN bPOUND
  MARK ABOVE bQUESTION MARK bRAISED ROUND DOT bRAY bREVERSED DAMMA bRIGHT ARROWHEAD ABOVE eWITH DOT
  dBELOW bROUNDED HIGH STOP WITH FILLED CENTRE bSEMICOLON bSHADDA cISOLATED FORM cMEDIAL FORM bSIGN
  ALAYHE ASSALLAM cMISRA cRADI ALLAHOU ANHU cRAHMATULLAH ALAYHE cSAFHA cSALLALLAHOU ALAYHE
  WASSALLAM cSAMVAT cSANAH cSINDHI AMPERSAND dPOSTPOSITION MEN cTAKHALLUS bSMALL DAMMA cFARSI YEH
  cFATHA cHIGH AIN dDOTLESS HEAD OF KHAH dFARSI YEH dFOOTNOTE MARKER dJEEM dLAM ALEF dLIGATURE ALEF
  WITH LAM WITH YEH eQAF WITH LAM WITH ALEF MAKSURA eSAD WITH LAM WITH ALEF MAKSURA dMADDA dMEEM
  INITIAL FORM eISOLATED FORM dNOON eWITH KASRA dQAF dROUNDED ZERO dSAD dSEEN dSIGN SAFHA dTAH
  dTHREE DOTS dUPRIGHT RECTANGULAR ZERO dWAW dWORD AL-JUZ eAN-NISF eAR-RUB eAS-SAJDA eATH-THALATHA
  eQIF eSAH eSAKTA eWAQFA dYEH eBARREE WITH TWO DOTS BELOW dZAH dZAIN cKASRA cLOW MEEM dNOON WITH
  KASRA dSEEN dWAW dWORD IMAALA eISHMAAM eTASHEEL cWAW cYEH bSTART OF RUB EL HIZB bSUBSCRIPT ALEF
  bSUKUN cBELOW cISOLATED FORM cMEDIAL FORM bSUPERSCRIPT ALEF MOKHASSAS bSYMBOL DOT ABOVE dBELOW
  cDOUBLE VERTICAL BAR BELOW cFOUR DOTS ABOVE eBELOW cRING cSMALL TAH ABOVE eBELOW cTHREE DOTS
  ABOVE eBELOW ePOINTING DOWNWARDS ABOVE gBELOW cTWO DOTS ABOVE eBELOW eVERTICALLY ABOVE fBELOW
  cWASLA ABOVE bTAIL FRAGMENT bTATWEEL cWITH FATHATAN ABOVE dOVERSTRUCK HAMZA eWAW dTWO DOTS BELOW
  bTHOUSANDS SEPARATOR bTONE LOOP ABOVE dBELOW cONE DOT ABOVE eBELOW cTWO DOTS ABOVE eBELOW bTRIPLE
  DOT PUNCTUATION MARK bTURNED DAMMA BELOW bVERTICAL TAIL bVOWEL SIGN DOT BELOW dINVERTED SMALL V
  ABOVE dSMALL V ABOVE bWAVY HAMZA BELOW bZWARAKAY aARABIC-INDIC CUBE ROOT bDIGIT EIGHT cFIVE cFOUR
  cNINE cONE cSEVEN cSIX cTHREE cTWO cZERO bFOURTH ROOT bPER MILLE SIGN cTEN THOUSAND SIGN aARC
  aARIES aARMENIAN ABBREVIATION MARK bAPOSTROPHE bCAPITAL LETTER AYB dBEN dCA dCHA dCHEH dCO dDA
  dECH dEH dET dFEH dGHAD dGIM dHO dINI dJA dJHEH dKEH dKEN dLIWN dMEN dNOW dOH dPEH dPIWR dRA dREH
  dSEH dSHA dTIWN dTO dVEW dVO dXEH dYI dYIWN dZA dZHE bCOMMA bDRAM SIGN bEMPHASIS MARK
  bEXCLAMATION MARK bFULL STOP bHYPHEN bMODIFIER LETTER LEFT HALF RING bQUESTION MARK bSMALL LETTER
  AYB dBEN dCA dCHA dCHEH dCO dDA dECH dEH dET dFEH dGHAD dGIM dHO dINI dJA dJHEH dKEH dKEN dLIWN
  dMEN dNOW dOH dPEH dPIWR dRA dREH dSEH dSHA dTIWN dTO dTURNED AYB dVEW dVO dXEH dYI eWITH STROKE
  dYIWN dZA dZHE cLIGATURE ECH YIWN dMEN ECH eINI eNOW eXEH dVEW NOW aARROW POINTING DOWNWARDS THEN
  CURVING LEFTWARDS fRIGHTWARDS cRIGHTWARDS THEN CURVING DOWNWARDS fSOUTH WEST fUPWARDS cUPWARDS
  THEN NORTH WEST aARROWHEAD-SHAPED POINTER aARTICULATED LORRY aARTIST PALETTE aASCENDING NODE
  aASCIA SYMBOL aASSERTION aASTERISK bOPERATOR aASTERISM aASTONISHED FACE aASTRAEA aASTRONOMICAL
  SYMBOL FOR URANUS aASYMPTOTICALLY EQUAL TO aATHLETIC SHOE aATOM SYMBOL aAUBERGINE aAUSTRAL SIGN
  aAUTO RICKSHAW aAUTOMATED TELLER MACHINE aAUTOMOBILE aAVESTAN ABBREVIATION MARK bLETTER A cAA
  cAAN cAAO cAE cAEE cAN cAO cBE cBHE cCE cDE cDHE cE cEE cFE cGE cGGE cGHE cHE cHME cI cII cJE cKE
  cLE cME cNE cNGE cNGVE cNGYE cNNE cNYE cO cOO cPE cRE cSE cSHE cSHYE cSSHE cTE cTHE cTTE cU cUU
  cVE cXE cXVE cXYE cYE cYYE cZE cZHE aAVOCADO aAXE aBABY bANGEL bBOTTLE bCHICK bSYMBOL aBACK OF
  ENVELOPE bWITH LEFTWARDS ARROW ABOVE aBACK-TILTED SHADOWED WHITE RIGHTWARDS ARROW aBACKSLANTED
  SOUTH ARROW WITH HOOKED TAIL eHORIZONTAL TAIL aBACKSPACE aBACON aBACTRIAN CAMEL aBADGER
  aBADMINTON RACQUET AND SHUTTLECOCK aBAGEL aBAGGAGE CLAIM aBAGUETTE BREAD aBALINESE ADEG ADEG
  bCARIK PAMUNGKAH cPAREREN cSIKI bDIGIT EIGHT cFIVE cFOUR cNINE cONE cSEVEN cSIX cTHREE cTWO cZERO
  bLETTER AIKARA cAKARA dTEDUNG cARCHAIC JNYA cASYURA SASAK cBA dKEMBANG cCA dLACA cDA dMADU dMURDA
  ALPAPRANA eMAHAPRANA cEF SASAK cEKARA cGA dGORA cHA cIKARA dTEDUNG cJA dJERA cKA dMAHAPRANA cKAF
  SASAK cKHOT SASAK cLA dLENGA eTEDUNG cMA cNA dRAMBAT cNGA cNYA cOKARA dTEDUNG cPA dKAPAL cRA
  dREPA eTEDUNG cSA dSAGA dSAPA cTA dLATIK dMURDA MAHAPRANA dTAWA cTZIR SASAK cUKARA dTEDUNG cVE
  SASAK cWA cYA cZAL SASAK bMUSICAL SYMBOL COMBINING BENDE eENDEP eGONG eJEGOGAN eKEMPLI fWITH
  JEGOGAN eKEMPUL fWITH JEGOGAN eTEGEH dDAENG dDAING dDANG eGEDE eSURANG dDENG dDEUNG dDING dDONG
  dDUNG dLEFT-HAND CLOSED PLAK fPLUK eOPEN PANG fPING fPUNG dRIGHT-HAND CLOSED TAK fTUK eOPEN DAG
  fDUG bPAMADA cLANTANG bPAMENENG bPANTI cLANTANG bSIGN BISAH cCECEK cREREKAN cSURANG cULU CANDRA
  dRICEM bVOWEL SIGN LA LENGA fTEDUNG dPEPET eTEDUNG dRA REPA fTEDUNG dSUKU eILUT dTALING eREPA
  fTEDUNG eTEDUNG dTEDUNG dULU eSARI bWINDU aBALL OF YARN aBALLET SHOES aBALLOON aBALLOON-SPOKED
  ASTERISK aBALLOT BOLD SCRIPT X bBOX cWITH BALLOT dBOLD CHECK eSCRIPT X dCHECK dLIGHT X dSCRIPT X
  dX bSCRIPT X bX aBAMUM COLON bCOMBINING MARK KOQNDON dTUKWENTIS bCOMMA bFULL STOP bLETTER A cEE
  cFAAMAE cFEE cFOM cFU cI cKA cKEN cKET cKEUX cKI cKO cKOGHOM cKOVUU cKPA cKU cKYEE cLA cLEEEE cLI
  cLOQ cLU cM cMA cMBAA cMBEN cMEEEE cMEN cMI cMO cMU cNA cNDAA cNGA cNGGA cNGKWAEN cNI cNJAEM
  cNJEE cNJUAE cNSHA cNTEE cNTUU cNU cNUAE cNYI cO cPA cPEE cPEUX cPHASE-A FIRI dGBIEE FON
  dGHEUAEGHEUAE dGHEUAERAE dKAFA dKAQ dKET dKEUKEUTNDA dKPOQ dKUOQ dLAPAQ dLET KUT dLOMMAE dLU
  dLUAEP dMAEKEUP dMAEM dMAEMBGBIEE dMAEMKPEN dMAEMVEUX dMAENYI dMAESI dMANSUAE dMAP PIEET dMBANYI
  dMBAQ dMEUNJOMNDEUQ dMGBASA dMON NGGEUAET dMOOMEUT dMOOMPUQ dMVEUAENGAM dNAA MFON dNAQ dNDA
  LEERAEWA dNDAANGGEUAET dNEN dNGANGU dNGGEN dNGKUE MFON dNGKUENZEUM dNIKA dNJAM dNKAARAE dNKINDI
  dNSHA dNSHIEE dNTAP eMFAA eNTAA dNTOQPEN dNYET dNYI dNYIT MONGKEUAEQ dNZA MFON dNZUN MEUT dPA
  LEERAEWA dPAAM dPAARAE dPAMSHAE dPASHAE dPET dPON MFON PIPAEMBA fPIPAEMGBIEE ePA NJI PIPAEMBA
  gPIPAEMGBIEE dPUP dROM dSEUNYAM dSHINDA PA NJI dSHIRAE dSHOQ NSHUT YUM dSHUENSHUET dSHUM dSISA
  dSONJAM dSOQ dSOT dSUU dTEUAEN dTEUTEUWEN dTITA MFON dTU MAEMBA dTUAEP dU YUQ NAE dUNKNOWN dVEE
  cPHASE-B FEE dFEUX dGHEUGHEN dGHEUGHEUAEM dKAM dKEUAEM dKEUPUQ dKEUYEUX dKIEEM dKIQ dLAANAE dLAM
  NSHUT NYAM dLET dLOM NTEUM dMA eNJEUAENA eNJUQA dMBA MAELEE dMBAARAE dMBEURI dMBIT MBAAKET dMBUOQ
  dMEUQ dMEUT NGGEET dMFIYAQ dMFON TEUAEQ dMONTIEEN dNDU NJAA dNGGAAM dNGGEU MBU dNGGUOQ eLARGE
  dNGKINDI MVOP dNGOM dNSEN dNSHUET dNTIEE SHEUOQ dNYAEMAE dNYI NTEUM dPARUM dPEESHI dPIT dPUNGAAM
  dSAKEUAE dSET TU dSHET NJAQ dSHEUAEQTU dSIEE dSUE dTAAM dTU MAEMGBIEE eNSIEE dVEUM dWUAET dYAFU
  LEERAEWA dYEURAE cPHASE-C BUNG dFUE dGBAYI dGHAP dGHARAE dKAA dKEN FATIGUE eLAW dKET dKEUKAQ
  dKEUM dKEUSEUX dKEUSHEUAEP dKPARAQ dKUOP NKAARAE dKUT dLAM dLAP dLIQ dLU dMA KEUAERI eNSIEE
  dMAEMBA dMAESI dMBAA CABBAGE-TREE ePICKET dMBANYI dMBEEKEET dMBERAE dMBEUM dMBEUX dMBI dMBIRIEEN
  dMBIT dMBUAEM dMBUE dMGBASAQ dMIEE dMUAE dNANSANAQ dNAQ dNDAM dNDAP dNDEUAEREE dNDEUT dNDIDA
  dNDOMBU dNGAQ dNGGEN dNGGU dNGGUAEN NYAM dNGGUEET dNGGUM dNGGUON dNGKAQ dNGKUE MAEMBA dNGOM
  dNJAEM dNJAM dNJEEEE dNJEUX dNJUEQ dNSA dNSEUAEN dNSHAQ dNSOM dNSUN dNSUOT NGOM dNTAA dNTEN
  dNTEUNGBA dNTU MBIT dNYIR MKPARAQ MEUN dNZA dNZEUM dPEN dPIN dPIRIEEN dRU dSETFON dSEUX dSHIQ
  dSHUEQ dSUAET dTAASHAE dTET dTEUTEUX dTITA YUE dTITUAEP dVEUAEPEN dVEUX dWANGKUOQ dWUP dYAA dYEUQ
  dYU MUOMAE dYUM dYUWOQ cPHASE-D FAA dFEUFEUAET dGHAA dGHEUAE dKET dKEUAETMEUN dKEUM dKEUOT MBUAE
  dKEUP dKU dKUN dKUOM dKUQ dKWAET dKYEE dLEEEE dLET dLEUAEP dLEUM dLIEE dLOQ dLUM dM dMAENJET
  dMALEERI dMBAA eSEVEN dMBUO dMEEEE dMEUN dMEUT dMFEUAE dMFEUT dMFIEE dMFO dMFON dMGBEUN dMGBIEE
  dMGBOFUM dMONI dMU dMVOP dNDAM dNDEE dNDEUX dNDON dNGGAAM dNGGAAMAE dNGGAP dNGGEUX dNGGUOM
  dNGGWAEN dNGKAP dNGKEUAEQ dNGKEURI dNGKIEE dNGKUN dNGKYEE dNI dNJAP dNJEUAEM dNJEUT dNJI dNJIEE
  dNJUEQ dNSHEE dNSHUT dNSIEEP dNSIEET dNSUM dNTEE dNTEUM dNTUU dNU dNYAM dNYET dNYI dNYUE dPAP
  dPEE dPEUTAE dPIP dPUQ dPUUT dRAEM dREN MUCH eOLD dRII dSAP dSAQ dSEUAEQ dSHEE dSHEUAE dSHEUX
  dSHII dSHOQ dSHU dSOT dSUAE dSUE dSUU dTAE dTEEEE dTEUAEN dTEUN dTEUT dTI dTOQ dTU dTUOT dWAP
  dWUAEN dYAEMMAE dYEN dYUOM dYUOP dYUWOQ cPHASE-E A dFA dFAQ dFEE dFOM dFU CALL eI eREMEDY dFUE
  dFUET dGBET dGBEUX dGHAAMAE dGHET dGHEUAE dGHEUN dGHEUX dGHOM dI dKET dKEUAE dKEUX dKI dKO dKPEUX
  dKUET dKUOP dKUT dLAAM dLAP dLAQ dLEUAEM dLOM dLOON dLOOT dLOQ dLU dMA dMAE dMAEM dMAP dMAQ dMBEE
  dMBEUM dMEN dMFEUQ dMGBA dMGBEN dMI dMIEE dMON dMUAE dMVI dNA dNAE dNDAA MY HOUSE eSOFTNESS dNDAP
  dNDIAQ dNDIQ dNDUN dNGA dNGEUREUT dNGGEEEE dNGGEUAE dNGGEUAET dNGGUAESHAE NYAM dNGGUP dNGGURAE
  dNGKA dNGKAAMI dNGKEUAEM dNGKEUX dNGKUM dNGKUP dNGOP dNGOQ dNGUAE dNGUAET dNJAEMLI dNJEE eEPOCH
  dNJEUX dNKOM dNSHIEE dNSHUE dNSHUOP dNTAP dNTUM dNYI BETWEEN eCLEAVER dNZAQ dNZUQ dO dPA PEOPLE
  ePLURAL dPAA dPAAM dPEEM dPEUT dPEUX dPI dPIEEQ dPIET dPO dPOON dPU dPUAE dPUAQ dPUE dPUM dRAE
  dRAQ dREUX dRIMGBA dSAA dSEE dSET dSHEUAEQ dSHIQ dSHO dSHOQ dSOM dSUAEN dTAA dTAAQ dTAEN NTEUM
  dTAM dTAQ dTEN dTEU dTEUAEQ dTOO dTOON dTOQ dTUAE dTUM dTUMAE dVEE dVEUAE dVOM dWEUX dWUE dWUO
  dYAP dYEUAE dYEUAET dYEUM dYEUX dYIEE dYIT dYOQ COVER eSWIMMING dYUAEN dYUEQ dYUN dYUQ cPHASE-F
  EE dFOM dKA dKEN dKET dKO dKPA dKU dKYEE dLA dLI dLOQ dM dMA dMBAA dMBEN dMEEEE dMO dNDAA dNGGA
  dNGKWAEN dNI dNJAEM dNJUAE dNSHA dNTEE dNU dNUAE dNYI dPEE dPEUX dPUAE dREE dREN dREUX dRIEE dRII
  dRU dSAMBA dSEUX dSHII dSHO dSHU dSI dSUU dTAA dTAE dTET dU dVUEQ dWA dWUE dYA dYOQ cPI cPUAE
  cPUE cRAE cREE cREN cREUX cRIEE cRII cRU cSAMBA cSEUX cSHEUX cSHII cSHO cSHU cSI cSUU cTAA cTAE
  cTEN cTET cTI cU cWA cWUE cYA cYOQ cYUQ bNJAEMLI bQUESTION MARK bSEMICOLON aBANANA aBANJO aBANK
  aBANKNOTE WITH DOLLAR SIGN cEURO SIGN cPOUND SIGN cYEN SIGN aBAR CHART bOF SOAP aBARBER POLE
  aBASEBALL aBASKET aBASKETBALL AND HOOP aBASSA VAH COMBINING HIGH TONE dHIGH-LOW TONE dLOW TONE
  dLOW-MID TONE dMID TONE cFULL STOP cLETTER A dBA dCE dDHII dDO dE dEE dENNI dFA dGAH dGBU dHWAH
  dI dJO dKA dKPAH dMBE dO dOO dPA dSE dTO dU dUWU dVU dWA dWADDA dYEIN dYIE dZO aBAT aBATAK
  CONSONANT SIGN H dNG bLETTER A cBA cCA cDA cGA cHA cI cJA cKARO BA cLA cMA cMANDAILING HA dNA dSA
  cMBA cNA cNDA cNGA cNORTHERN TA cNYA cPA cPAKPAK WA cRA cSA cSIMALUNGUN A dGA dHA dLA dMA dPA dRA
  dSA dWA dYA cSOUTHERN TA cU cWA cYA bPANGOLAT bPANONGONAN bSIGN TOMPI bSYMBOL BINDU JUDUL dNA
  METEK dPANGOLAT dPINARBORAS bVOWEL SIGN E dEE dI dKARO I eO dO dPAKPAK E dU eFOR SIMALUNGUN SA
  aBATH aBATHTUB aBATTERY aBEACH WITH UMBRELLA aBEAMED ASCENDING MUSICAL NOTES bDESCENDING MUSICAL
  NOTES bEIGHTH NOTES bSIXTEENTH NOTES aBEANS aBEAR FACE aBEARDED PERSON aBEATING HEART aBEAVER
  aBECAUSE aBED aBEER MUG aBEETLE aBEL aBELL bPEPPER bSYMBOL bWITH CANCELLATION STROKE aBELLHOP
  BELL aBENGALI ABBREVIATION SIGN bANJI bAU LENGTH MARK bCURRENCY DENOMINATOR SIXTEEN cNUMERATOR
  FOUR dONE eLESS THAN THE DENOMINATOR dTHREE dTWO bDIGIT EIGHT cFIVE cFOUR cNINE cONE cSEVEN cSIX
  cTHREE cTWO cZERO bGANDA MARK bISSHAR bLETTER A cAA cAI cAU cBA cBHA cCA cCHA cDA cDDA cDDHA cDHA
  cE cGA cGHA cHA cI cII cJA cJHA cKA cKHA cKHANDA TA cLA cMA cNA cNGA cNNA cNYA cO cPA cPHA cRA
  dWITH LOWER DIAGONAL eMIDDLE DIAGONAL cRHA cRRA cSA cSHA cSSA cTA cTHA cTTA cTTHA cU cUU cVEDIC
  ANUSVARA cVOCALIC L dLL dR dRR cYA cYYA bRUPEE MARK cSIGN bSANDHI MARK bSIGN ANUSVARA cAVAGRAHA
  cCANDRABINDU cNUKTA cVIRAMA cVISARGA bVOWEL SIGN AA dAI dAU dE dI dII dO dU dUU dVOCALIC L eLL eR
  eRR aBENT ARROW POINTING DOWNWARDS THEN NORTH EAST aBENTO BOX aBENZENE RING cWITH CIRCLE aBET
  SYMBOL aBETWEEN aBEVERAGE BOX aBHAIKSUKI DANDA bDIGIT EIGHT cFIVE cFOUR cNINE cONE cSEVEN cSIX
  cTHREE cTWO cZERO bDOUBLE DANDA bGAP FILLER-1 cFILLER-2 bHUNDREDS UNIT MARK bLETTER A cAA cAI cAU
  cBA cBHA cCA cCHA cDA cDDA cDDHA cDHA cE cGA cGHA cHA cI cII cJA cJHA cKA cKHA cLA cMA cNA cNGA
  cNNA cNYA cO cPA cPHA cRA cSA cSHA cSSA cTA cTHA cTTA cTTHA cU cUU cVA cVOCALIC L dR dRR cYA
  bNUMBER EIGHT cEIGHTY cFIFTY cFIVE cFORTY cFOUR cNINE cNINETY cONE cSEVEN cSEVENTY cSIX cSIXTY
  cTEN cTHIRTY cTHREE cTWENTY cTWO bSIGN ANUSVARA cAVAGRAHA cCANDRABINDU cVIRAMA cVISARGA bVOWEL
  SIGN AA dAI dAU dE dI dII dO dU dUU dVOCALIC L eR eRR bWORD SEPARATOR aBICYCLE aBICYCLIST aBIG
  REVERSE SOLIDUS bSOLIDUS aBIKINI aBILLED CAP aBILLIARDS aBIOHAZARD SIGN aBIRD aBIRTHDAY CAKE
  aBISON aBITCOIN SIGN aBITING LIP aBLACK BOWTIE bCENTRE WHITE STAR bCHESS BISHOP dROTATED NINETY
  DEGREES eTWO HUNDRED SEVENTY DEGREES cEQUIHOPPER dROTATED NINETY DEGREES cKING dROTATED NINETY
  DEGREES eTWO HUNDRED SEVENTY DEGREES cKNIGHT dROTATED FORTY-FIVE DEGREES eNINETY DEGREES eONE
  HUNDRED THIRTY-FIVE DEGREES eTHREE HUNDRED FIFTEEN DEGREES eTWO HUNDRED SEVENTY DEGREES
  gTWENTY-FIVE DEGREES cKNIGHT-BISHOP cKNIGHT-QUEEN cKNIGHT-ROOK cPAWN dROTATED NINETY DEGREES eTWO
  HUNDRED SEVENTY DEGREES cQUEEN dROTATED NINETY DEGREES eTWO HUNDRED SEVENTY DEGREES cROOK
  dROTATED NINETY DEGREES eTWO HUNDRED SEVENTY DEGREES cTURNED BISHOP dKING dKNIGHT dPAWN dQUEEN
  dROOK bCIRCLE cFOR RECORD cWITH DOWN ARROW dTWO WHITE DOTS dWHITE DOT RIGHT bCLUB SUIT bCROSS ON
  SHIELD bCURVED DOWNWARDS AND LEFTWARDS ARROW eRIGHTWARDS ARROW cLEFTWARDS AND DOWNWARDS ARROW
  eUPWARDS ARROW cRIGHTWARDS AND DOWNWARDS ARROW eUPWARDS ARROW cUPWARDS AND LEFTWARDS ARROW
  eRIGHTWARDS ARROW bDIAMOND cCENTRED cMINUS WHITE X cON CROSS cSUIT cWITH DOWN ARROW bDOWN
  POINTING BACKHAND INDEX bDOWN-POINTING DOUBLE TRIANGLE cISOSCELES RIGHT TRIANGLE cSMALL TRIANGLE
  cTRIANGLE bDOWNWARDS EQUILATERAL ARROWHEAD bDRAUGHTS KING cMAN bDROPLET bFLAG bFLORETTE bFOLDER
  bFOUR POINTED STAR bHARD SHELL FLOPPY DISK bHEART cSUIT bHEXAGON bHORIZONTAL ELLIPSE bHOURGLASS
  bLARGE CIRCLE cSQUARE bLEFT LANE MERGE cPOINTING BACKHAND INDEX dINDEX bLEFT-POINTING DOUBLE
  TRIANGLE eWITH VERTICAL BAR cISOSCELES RIGHT TRIANGLE cPOINTER cSMALL TRIANGLE cTRIANGLE
  bLEFTWARDS BULLET cEQUILATERAL ARROWHEAD bLOWER LEFT TRIANGLE cRIGHT TRIANGLE bLOZENGE bMEDIUM
  DIAMOND cDOWN-POINTING TRIANGLE eCENTRED cLEFT-POINTING TRIANGLE eCENTRED cLOZENGE
  cRIGHT-POINTING TRIANGLE eCENTRED cSMALL DIAMOND dLOZENGE dSQUARE cSQUARE cUP-POINTING TRIANGLE
  eCENTRED bMOON LILITH bNIB bOCTAGON bPARALLELOGRAM bPENNANT bPENTAGON bPUSHPIN bQUESTION MARK
  ORNAMENT bRECTANGLE bRIGHT POINTING BACKHAND INDEX dINDEX bRIGHT-POINTING DOUBLE TRIANGLE eWITH
  VERTICAL BAR cISOSCELES RIGHT TRIANGLE cPENTAGON cPOINTER cSMALL TRIANGLE cTRIANGLE dWITH DOUBLE
  VERTICAL BAR bRIGHTWARDS ARROW cARROWHEAD cBULLET cEQUILATERAL ARROWHEAD bROSETTE bSAFETY
  SCISSORS bSCISSORS bSHOGI PIECE bSKULL AND CROSSBONES bSLIGHTLY SMALL CIRCLE dSQUARE bSMALL
  DIAMOND cLOZENGE cSQUARE cSTAR bSMILING FACE bSNOWMAN bSPADE SUIT bSQUARE cBUTTON cCENTRED cFOR
  STOP bSTAR bSUN WITH RAYS bTELEPHONE bTINY DIAMOND cLOZENGE cSQUARE bTOUCHTONE TELEPHONE bTRUCK
  bTWO-WAY LEFT WAY TRAFFIC bUNIVERSAL RECYCLING SYMBOL bUP POINTING BACKHAND INDEX bUP-POINTING
  DOUBLE TRIANGLE cISOSCELES RIGHT TRIANGLE cSMALL TRIANGLE cTRIANGLE bUPPER LEFT TRIANGLE cRIGHT
  TRIANGLE bUPWARDS EQUILATERAL ARROWHEAD bVERTICAL ELLIPSE cRECTANGLE bVERY SMALL DIAMOND dLOZENGE
  dSQUARE aBLACK-FEATHERED NORTH EAST ARROW bRIGHTWARDS ARROW bSOUTH EAST ARROW aBLACK-LETTER
  CAPITAL C cH cI cR cZ aBLANK SYMBOL aBLOCK SEXTANT-1 bSEXTANT-12 bSEXTANT-123 bSEXTANT-1234
  bSEXTANT-12345 bSEXTANT-12346 bSEXTANT-1235 bSEXTANT-12356 bSEXTANT-1236 bSEXTANT-124
  bSEXTANT-1245 bSEXTANT-12456 bSEXTANT-1246 bSEXTANT-125 bSEXTANT-1256 bSEXTANT-126 bSEXTANT-13
  bSEXTANT-134 bSEXTANT-1345 bSEXTANT-13456 bSEXTANT-1346 bSEXTANT-1356 bSEXTANT-136 bSEXTANT-14
  bSEXTANT-145 bSEXTANT-1456 bSEXTANT-146 bSEXTANT-15 bSEXTANT-156 bSEXTANT-16 bSEXTANT-2
  bSEXTANT-23 bSEXTANT-234 bSEXTANT-2345 bSEXTANT-23456 bSEXTANT-2346 bSEXTANT-235 bSEXTANT-2356
  bSEXTANT-236 bSEXTANT-24 bSEXTANT-245 bSEXTANT-2456 bSEXTANT-25 bSEXTANT-256 bSEXTANT-26
  bSEXTANT-3 bSEXTANT-34 bSEXTANT-345 bSEXTANT-3456 bSEXTANT-346 bSEXTANT-35 bSEXTANT-356
  bSEXTANT-36 bSEXTANT-4 bSEXTANT-45 bSEXTANT-456 bSEXTANT-46 bSEXTANT-5 bSEXTANT-56 bSEXTANT-6
  aBLOSSOM aBLOWFISH aBLUE BOOK bHEART aBLUEBERRIES aBOAR aBOLD EIGHT SPOKED ASTERISK bFIVE SPOKED
  ASTERISK bGREEK CROSS bSALTIRE bSIX SPOKED ASTERISK bWHITE CIRCLE cSQUARE aBOM aBOMB aBONE aBOOK
  aBOOKMARK bTABS aBOOKS aBOOMERANG aBOPOMOFO FINAL LETTER G dH dK dP dT bLETTER A cAH cAI cAINN
  cAM cAN cANG cANN cAU cAUNN cB cBU cC cCH cD cE cEE cEH cEI cEN cENG cENN cER cF cG cGH cGN cGU
  cGW cH cI cIH cIM cINN cINNN cIR cIU cJ cJI cK cKW cL cLH cM cN cNG cNGG cNN cO dWITH DOT ABOVE
  cOE cOM cONG cONN cOO cOU cP cQ cR cS cSH cT cU cUNN cV cX cZ cZH cZI cZY aBOTTLE WITH POPPING
  CORK aBOTTOM ARC ANTICLOCKWISE ARROW bCURLY BRACKET bHALF BLACK CIRCLE cINTEGRAL cLEFT
  PARENTHESIS cRIGHT PARENTHESIS bLEFT CORNER cCROP cHALF BRACKET bPARENTHESIS bRIGHT CORNER cCROP
  cHALF BRACKET bSQUARE BRACKET dOVER TOP SQUARE BRACKET bTORTOISE SHELL BRACKET aBOUQUET bOF
  FLOWERS aBOW AND ARROW aBOWL OF HYGIEIA bWITH SPOON aBOWLING aBOWTIE bWITH LEFT HALF BLACK cRIGHT
  HALF BLACK aBOX DRAWINGS DOUBLE DOWN AND HORIZONTAL fLEFT fRIGHT dHORIZONTAL dUP AND HORIZONTAL
  fLEFT fRIGHT dVERTICAL eAND HORIZONTAL fLEFT fRIGHT cDOWN DOUBLE AND HORIZONTAL SINGLE fLEFT
  SINGLE fRIGHT SINGLE dHEAVY AND HORIZONTAL LIGHT fLEFT LIGHT gUP LIGHT fRIGHT LIGHT gUP LIGHT fUP
  HORIZONTAL LIGHT dLIGHT AND HORIZONTAL HEAVY fLEFT HEAVY gUP HEAVY fRIGHT HEAVY gUP HEAVY fUP
  HORIZONTAL HEAVY dSINGLE AND HORIZONTAL DOUBLE fLEFT DOUBLE fRIGHT DOUBLE cHEAVY DOUBLE DASH
  HORIZONTAL fVERTICAL dDOWN eAND HORIZONTAL fLEFT fRIGHT dHORIZONTAL dLEFT eAND LIGHT RIGHT
  dQUADRUPLE DASH HORIZONTAL fVERTICAL dRIGHT dTRIPLE DASH HORIZONTAL fVERTICAL dUP eAND HORIZONTAL
  fLEFT fLIGHT DOWN fRIGHT dVERTICAL eAND HORIZONTAL fLEFT fRIGHT cLEFT DOWN HEAVY AND RIGHT UP
  LIGHT dHEAVY AND RIGHT DOWN LIGHT gUP LIGHT gVERTICAL LIGHT dLIGHT AND RIGHT DOWN HEAVY gUP HEAVY
  gVERTICAL HEAVY dUP HEAVY AND RIGHT DOWN LIGHT cLIGHT ARC DOWN AND LEFT gRIGHT eUP AND LEFT
  gRIGHT dDIAGONAL CROSS eDIAMOND eMIDDLE LEFT TO LOWER CENTRE jTO MIDDLE RIGHT hUPPER CENTRE TO
  MIDDLE RIGHT mTO LOWER CENTRE fRIGHT TO LOWER CENTRE hUPPER CENTRE TO MIDDLE LEFT TO LOWER CENTRE
  eUPPER CENTRE TO MIDDLE LEFT jAND MIDDLE RIGHT TO LOWER CENTRE jTO LOWER CENTRE mTO MIDDLE RIGHT
  iRIGHT jAND MIDDLE LEFT TO LOWER CENTRE jTO LOWER CENTRE mTO MIDDLE LEFT fLEFT TO LOWER RIGHT
  fRIGHT TO LOWER LEFT dDOUBLE DASH HORIZONTAL fVERTICAL dDOWN eAND HORIZONTAL fLEFT fRIGHT
  dHORIZONTAL eWITH VERTICAL STROKE dLEFT eAND HEAVY RIGHT dQUADRUPLE DASH HORIZONTAL fVERTICAL
  dRIGHT dTRIPLE DASH HORIZONTAL fVERTICAL dUP eAND HEAVY DOWN fHORIZONTAL fLEFT fRIGHT dVERTICAL
  eAND HORIZONTAL fLEFT fRIGHT cRIGHT DOWN HEAVY AND LEFT UP LIGHT dHEAVY AND LEFT DOWN LIGHT gUP
  LIGHT gVERTICAL LIGHT dLIGHT AND LEFT DOWN HEAVY gUP HEAVY gVERTICAL HEAVY dUP HEAVY AND LEFT
  DOWN LIGHT cUP DOUBLE AND HORIZONTAL SINGLE fLEFT SINGLE fRIGHT SINGLE dHEAVY AND DOWN HORIZONTAL
  LIGHT fHORIZONTAL LIGHT fLEFT DOWN LIGHT gLIGHT fRIGHT DOWN LIGHT gLIGHT dLIGHT AND DOWN
  HORIZONTAL HEAVY fHORIZONTAL HEAVY fLEFT DOWN HEAVY gHEAVY fRIGHT DOWN HEAVY gHEAVY dSINGLE AND
  HORIZONTAL DOUBLE fLEFT DOUBLE fRIGHT DOUBLE cVERTICAL DOUBLE AND HORIZONTAL SINGLE fLEFT SINGLE
  fRIGHT SINGLE dHEAVY AND HORIZONTAL LIGHT fLEFT LIGHT fRIGHT LIGHT dLIGHT AND HORIZONTAL HEAVY
  fLEFT HEAVY fRIGHT HEAVY dSINGLE AND HORIZONTAL DOUBLE fLEFT DOUBLE fRIGHT DOUBLE aBOXING GLOVE
  aBOY aBOYS SYMBOL aBPH aBRAHMI DANDA bDIGIT EIGHT cFIVE cFOUR cNINE cONE cSEVEN cSIX cTHREE cTWO
  cZERO bDOUBLE DANDA bLETTER A cAA cAI cAU cBA cBHA cCA cCHA cDA cDDA cDDHA cDHA cE cGA cGHA cHA
  cI cII cJA cJHA cKA cKHA cLA cLLA cMA cNA cNGA cNNA cNYA cO cOLD TAMIL LLA eLLLA eNNNA eRRA
  eSHORT E fO cPA cPHA cRA cSA cSHA cSSA cTA cTHA cTTA cTTHA cU cUU cVA cVOCALIC L dLL dR dRR cYA
  bNUMBER EIGHT cEIGHTY cFIFTY cFIVE cFORTY cFOUR cJOINER cNINE cNINETY cONE dHUNDRED dTHOUSAND
  cSEVEN cSEVENTY cSIX cSIXTY cTEN cTHIRTY cTHREE cTWENTY cTWO bPUNCTUATION CRESCENT BAR cDOT
  cDOUBLE DOT cLINE cLOTUS bSIGN ANUSVARA cCANDRABINDU cJIHVAMULIYA cOLD TAMIL VIRAMA cUPADHMANIYA
  cVISARGA bVIRAMA bVOWEL SIGN AA dAI dAU dBHATTIPROLU AA dE dI dII dO dOLD TAMIL SHORT E gO dU dUU
  dVOCALIC L eLL eR eRR aBRAILLE PATTERN BLANK cDOTS-1 cDOTS-12 cDOTS-123 cDOTS-1234 cDOTS-12345
  cDOTS-123456 cDOTS-1234567 cDOTS-12345678 cDOTS-1234568 cDOTS-123457 cDOTS-1234578 cDOTS-123458
  cDOTS-12346 cDOTS-123467 cDOTS-1234678 cDOTS-123468 cDOTS-12347 cDOTS-123478 cDOTS-12348
  cDOTS-1235 cDOTS-12356 cDOTS-123567 cDOTS-1235678 cDOTS-123568 cDOTS-12357 cDOTS-123578
  cDOTS-12358 cDOTS-1236 cDOTS-12367 cDOTS-123678 cDOTS-12368 cDOTS-1237 cDOTS-12378 cDOTS-1238
  cDOTS-124 cDOTS-1245 cDOTS-12456 cDOTS-124567 cDOTS-1245678 cDOTS-124568 cDOTS-12457 cDOTS-124578
  cDOTS-12458 cDOTS-1246 cDOTS-12467 cDOTS-124678 cDOTS-12468 cDOTS-1247 cDOTS-12478 cDOTS-1248
  cDOTS-125 cDOTS-1256 cDOTS-12567 cDOTS-125678 cDOTS-12568 cDOTS-1257 cDOTS-12578 cDOTS-1258
  cDOTS-126 cDOTS-1267 cDOTS-12678 cDOTS-1268 cDOTS-127 cDOTS-1278 cDOTS-128 cDOTS-13 cDOTS-134
  cDOTS-1345 cDOTS-13456 cDOTS-134567 cDOTS-1345678 cDOTS-134568 cDOTS-13457 cDOTS-134578
  cDOTS-13458 cDOTS-1346 cDOTS-13467 cDOTS-134678 cDOTS-13468 cDOTS-1347 cDOTS-13478 cDOTS-1348
  cDOTS-135 cDOTS-1356 cDOTS-13567 cDOTS-135678 cDOTS-13568 cDOTS-1357 cDOTS-13578 cDOTS-1358
  cDOTS-136 cDOTS-1367 cDOTS-13678 cDOTS-1368 cDOTS-137 cDOTS-1378 cDOTS-138 cDOTS-14 cDOTS-145
  cDOTS-1456 cDOTS-14567 cDOTS-145678 cDOTS-14568 cDOTS-1457 cDOTS-14578 cDOTS-1458 cDOTS-146
  cDOTS-1467 cDOTS-14678 cDOTS-1468 cDOTS-147 cDOTS-1478 cDOTS-148 cDOTS-15 cDOTS-156 cDOTS-1567
  cDOTS-15678 cDOTS-1568 cDOTS-157 cDOTS-1578 cDOTS-158 cDOTS-16 cDOTS-167 cDOTS-1678 cDOTS-168
  cDOTS-17 cDOTS-178 cDOTS-18 cDOTS-2 cDOTS-23 cDOTS-234 cDOTS-2345 cDOTS-23456 cDOTS-234567
  cDOTS-2345678 cDOTS-234568 cDOTS-23457 cDOTS-234578 cDOTS-23458 cDOTS-2346 cDOTS-23467
  cDOTS-234678 cDOTS-23468 cDOTS-2347 cDOTS-23478 cDOTS-2348 cDOTS-235 cDOTS-2356 cDOTS-23567
  cDOTS-235678 cDOTS-23568 cDOTS-2357 cDOTS-23578 cDOTS-2358 cDOTS-236 cDOTS-2367 cDOTS-23678
  cDOTS-2368 cDOTS-237 cDOTS-2378 cDOTS-238 cDOTS-24 cDOTS-245 cDOTS-2456 cDOTS-24567 cDOTS-245678
  cDOTS-24568 cDOTS-2457 cDOTS-24578 cDOTS-2458 cDOTS-246 cDOTS-2467 cDOTS-24678 cDOTS-2468
  cDOTS-247 cDOTS-2478 cDOTS-248 cDOTS-25 cDOTS-256 cDOTS-2567 cDOTS-25678 cDOTS-2568 cDOTS-257
  cDOTS-2578 cDOTS-258 cDOTS-26 cDOTS-267 cDOTS-2678 cDOTS-268 cDOTS-27 cDOTS-278 cDOTS-28 cDOTS-3
  cDOTS-34 cDOTS-345 cDOTS-3456 cDOTS-34567 cDOTS-345678 cDOTS-34568 cDOTS-3457 cDOTS-34578
  cDOTS-3458 cDOTS-346 cDOTS-3467 cDOTS-34678 cDOTS-3468 cDOTS-347 cDOTS-3478 cDOTS-348 cDOTS-35
  cDOTS-356 cDOTS-3567 cDOTS-35678 cDOTS-3568 cDOTS-357 cDOTS-3578 cDOTS-358 cDOTS-36 cDOTS-367
  cDOTS-3678 cDOTS-368 cDOTS-37 cDOTS-378 cDOTS-38 cDOTS-4 cDOTS-45 cDOTS-456 cDOTS-4567
  cDOTS-45678 cDOTS-4568 cDOTS-457 cDOTS-4578 cDOTS-458 cDOTS-46 cDOTS-467 cDOTS-4678 cDOTS-468
  cDOTS-47 cDOTS-478 cDOTS-48 cDOTS-5 cDOTS-56 cDOTS-567 cDOTS-5678 cDOTS-568 cDOTS-57 cDOTS-578
  cDOTS-58 cDOTS-6 cDOTS-67 cDOTS-678 cDOTS-68 cDOTS-7 cDOTS-78 cDOTS-8 aBRAIN aBREAD aBREAK
  PERMITTED HERE aBREAST-FEEDING aBREVE aBRICK aBRIDE WITH VEIL aBRIDGE AT NIGHT aBRIEFCASE aBRIEFS
  aBROCCOLI aBROKEN BAR bCIRCLE WITH NORTHWEST ARROW bHEART aBROOM aBROWN HEART aBS aBUBBLE TEA
  aBUBBLES aBUCKET aBUG aBUGINESE END OF SECTION bLETTER A cBA cCA cDA cGA cHA cJA cKA cLA cMA cMPA
  cNA cNGA cNGKA cNRA cNYA cNYCA cPA cRA cSA cTA cVA cYA bPALLAWA bVOWEL SIGN AE dE dI dO dU aBUHID
  LETTER A cBA cDA cGA cHA cI cKA cLA cMA cNA cNGA cPA cRA cSA cTA cU cWA cYA bVOWEL SIGN I dU
  aBUILDING CONSTRUCTION aBULLET bOPERATOR aBULLHORN bWITH SOUND WAVES aBULLSEYE aBURRITO aBUS
  bSTOP aBUST IN SILHOUETTE aBUSTS IN SILHOUETTE aBUTTER aBUTTERFLY aBYTE ORDER MARK aBYZANTINE
  MUSICAL SYMBOL AGOGI ARGI eARGOTERI eGORGI eGORGOTERI eMESI eMETRIA ePOLI ARGI fGORGI
  dANATRICHISMA dANTIKENOKYLISMA dANTIKENOMA dAPESO EKFONITIKON eEXO NEO dAPLI dAPODERMA ARCHAION
  eNEO dAPOSTROFOI SYNDESMOS NEO eTELOUS ICHIMATOS dAPOSTROFOS eDIPLI eNEO dAPOTHEMA dARGON
  dARGOSYNTHETON dARKTIKO DI eGA eKE eNI ePA eVOU eZO dCHAMILI dCHAMILON dCHOREVMA ARCHAION eNEO
  dCHROA KLITON eSPATHI eZYGOS dDASEIA dDIARGON dDIASTOLI APLI MEGALI fMIKRI eDIPLI eTHESEOS
  dDIESIS APLI DYO DODEKATA eDIGRAMMOS EX DODEKATA eMONOGRAMMOS TESSERA DODEKATA eTETARTIMORION
  eTRIGRAMMOS OKTO DODEKATA eTRITIMORION dDIFTOGGOS OU dDIGORGON ePARESTIGMENON ARISTERA ANO gKATO
  fDEXIA dDIGRAMMA GG dDIPLI eARCHAION dDYO dEKSTREPTON dELAFRON dENARXIS KAI FTHORA VOU dENDOFONON
  dEPEGERMA dETERON ARGOSYNTHETON ePARAKALESMA dEXO EKFONITIKON dFANEROSIS DIFONIAS eMONOFONIAS
  eTETRAFONIAS dFHTORA SKLIRON CHROMA VASIS dFTHORA ARCHAION fDEYTEROU ICHOU eDIATONIKI DI fKE
  fNANA fNI ANO gKATO fPA fZO eENARMONIOS ANTIFONIA eI YFESIS TETARTIMORION eMALAKON CHROMA
  DIFONIAS gMONOFONIAS eNAOS ICHOS eNENANO eSKLIRON CHROMA SYNAFI gVASIS fDIATONON DI dGENIKI
  DIESIS eYFESIS dGORGON ARCHAION eNEO ANO fKATO ePARESTIGMENON ARISTERA fDEXIA dGORGOSYNTHETON
  dGORTHMIKON N APLOUN fDIPLOUN dGRONTHISMATA dICHADIN dIMIDIARGON dIMIFONON dIMIFTHORA dIMIFTHORON
  dISAKIA TELOUS ICHIMATOS dISON ARCHAION eNEO dKATAVA TROMIKON dKATAVASMA dKATHISTI dKENTIMA
  ARCHAION eNEO ANO fKATO fMESO dKENTIMATA eARCHAION eNEO ANO fKATO fMESO dKLASMA eANO eKATO
  dKONTEVMA eALLO dKORONIS dKOUFISMA dKRATIMA ALLO eARCHAION eNEO dKRATIMATA dKRATIMOKOUFISMA
  dKRATIMOYPORROON dKREMASTI dKYLISMA dLEIMMA DYO CHRONON eENOS CHRONOU eIMISEOS CHRONOU eTESSARON
  CHRONON eTRION CHRONON dLEMOI dLYGISMA dMARTYRIA ALLI DEYTEROS ICHOS fPROTOS ICHOS eDEYTEROS
  ICHOS eLEGETOS ICHOS ePLAGIOS ICHOS fTETARTOS ICHOS ePROTOS ICHOS ePROTOVARYS ICHOS eTETARTOS
  ICHOS fLEGETOS ICHOS eTRIFONIAS eTRITOS ICHOS eVARYS ICHOS dMIKRON ISON dNANA dOLIGON ARCHAION
  eNEO dOMALON dOXEIA DIPLI eEKFONITIKON eNEO dOXEIAI ARCHAION dOYRANISMA ARCHAION eNEO
  dPARAKALESMA ARCHAION eNEO dPARAKLITIKI eARCHAION eNEO dPARICHON dPELASTON eNEO dPERISPOMENI
  dPETASMA dPETASTI dPETASTOKOUFISMA dPIASMA ARCHAION eNEO dPSIFISTOLYGISMA dPSIFISTON eNEO
  dPSIFISTOPARAKALESMA dPSIFISTOSYNAGMA dPSILI dPSILON dRAPISMA dREVMA dSAXIMATA dSEISMA eNEO
  dSIMANSIS ARSEOS fDISIMOU fTETRASIMOU fTRISIMOU eTHESEOS fDISIMOU fTETRASIMOU fTRISIMOU dSTAVROS
  eAPODEXIA dSTIGMA dSTRAGGISMATA dSYNAGMA ARCHAION eMETA STAVROU eNEO dSYNEVMA dSYRMA dSYRMATIKI
  dTELEIA dTESSERA dTETRAPLI dTHEMA eAPLOUN dTHEMATISMOS ESO eEXO dTHES KAI APOTHES dTHITA dTINAGMA
  dTRIA dTRIGORGON dTRIPLI dTROMIKOLYGISMA dTROMIKON ALLO eARCHAION eNEO dTROMIKOPARAKALESMA
  dTROMIKOPSIFISTON dTROMIKOSYNAGMA dVAREIA DIPLI eEKFONITIKON eNEO dVAREIAI ARCHAION dVATHY dXIRON
  KLASMA dYFEN ANO eKATO dYFESIS APLI DYO DODEKATA eDIGRAMMOS EX DODEKATA eMONOGRAMMOS TESSERA
  DODEKATA eTRIGRAMMOS OKTO DODEKATA eTRITIMORION dYPOKRISIS eDIPLI dYPORROI dYPSILI aCACTUS aCADA
  UNA aCADUCEUS aCALENDAR aCALL ME HAND aCAMERA bWITH FLASH aCAMPING aCAN aCANADIAN SYLLABICS A cAA
  cAAI cAAY cAI cAIVILIK B cAN cATHAPASCAN M dS cAY cBEAVER DENE L eR cBIBLE-CREE Y cBLACKFOOT A dE
  dI dKA dKE dKI dKO dNA dNE dNI dNO dO dS dW dWA dWE dWI dWO cC cCA cCAA cCAAI cCARRIER CHA dCHE
  dCHEE dCHI dCHO dCHU dDEE dDENE GEE dDENTAL S dDI dDLA dDLE dDLEE dDLI dDLO dDLU dDZA dDZE dDZEE
  dDZI dDZO dDZU dEE dGA dGAA dGE dGEE dGHA dGHE dGHEE dGHI dGHO dGHU dGI dGO dGU dGWA dGWU dH dHEE
  dHI dHWA dHWE dHWEE dHWI dHWO dHWU dI dINITIAL Z dJA dJE dJEE dJI dJJA dJJE dJJEE dJJI dJJO dJJU
  dJO dJU dJWA dKHA dKHE dKHEE dKHI dKHO dKHU dKK dKKA dKKE dKKEE dKKI dKKO dKKU dLA dLE dLEE dLHA
  dLHE dLHEE dLHI dLHO dLHU dLI dLO dLU dMA dME dMEE dMI dMO dMU dNA dNE dNEE dNG dNI dNO dNU dP
  dPA dPE dPEE dPI dPO dPU dRA dRE dREE dRI dRO dRU dSA dSE dSEE dSH dSHA dSHE dSHEE dSHI dSHO dSHU
  dSI dSO dSU dTHA dTHE dTHEE dTHI dTHO dTHU dTLA dTLE dTLEE dTLHA dTLHE dTLHEE dTLHI dTLHO dTLHU
  dTLI dTLO dTLU dTSA dTSE dTSEE dTSI dTSO dTSU dTTA dTTE dTTEE dTTI dTTO dTTSA dTTSE dTTSEE dTTSI
  dTTSO dTTSU dTTU dWA dWE dWEE dWI dWO dWU dYA dYE dYEE dYI dYO dYU dZ dZA dZE dZEE dZI dZO dZU
  cCE cCHI SIGN cCI cCII cCO cCOO cCWA cCWAA cCWE cCWI cCWII cCWO cCWOO cE cEASTERN W cEN cF cFA
  cFAA cFAAI cFE cFI cFII cFINAL ACUTE dBOTTOM HALF RING dDOUBLE ACUTE eSHORT VERTICAL STROKES
  dDOWN TACK dGRAVE dMIDDLE DOT dPLUS dRAISED DOT dRIGHT HALF RING dRING dSHORT HORIZONTAL STROKE
  dSMALL RING dTOP HALF RING cFO cFOO cFULL STOP cFWAA cGLOTTAL STOP cHK cHYPHEN cI cII cIN cK cKA
  cKAA cKAAI cKAY cKE cKI cKII cKO cKOO cKW cKWA cKWAA cKWAY cKWE cKWI cKWII cKWO cKWOO cL cLA cLAA
  cLAAI cLAY cLE cLH cLHA cLHAA cLHI cLHII cLHO cLHOO cLI cLII cLO cLOO cLWA cLWAA cLWE cLWI cLWII
  cLWO cLWOO cM cMA cMAA cMAAI cMAY cME cMEDIAL L dR cMH cMI cMII cMO cMOO cMOOSE-CREE SK cMWA
  cMWAA cMWE cMWI cMWII cMWO cMWOO cN cN-CREE THE dTHI dTHII cNA cNAA cNAAI cNASKAPI CWAA dKWAA
  dMWAA dNWAA dS-W dSCWA dSKW dSKWA dSPWA dSTWA dSWAA dTWAA dWAA dWOO dYWAA cNATTILIK HA dHAA dHI
  dHII dHO dHOO dSHRA dSHRAA dSHRI dSHRII dSHRO dSHROO cNAY cNE cNG cNGA cNGAA cNGAAI cNGAI cNGI
  cNGII cNGO cNGOO cNH cNI cNII cNNG cNNGA cNNGAA cNNGI cNNGII cNNGO cNNGOO cNO cNOO cNOY cNUNAVIK
  H dHA dHAA dHE dHI dHII dHO dHOO cNUNAVUT H cNWA cNWAA cNWE cNWI cNWII cNWO cNWOO cO cOJIBWAY C
  dK dM dN dNWI dNWII dNWO dNWOO dP dS dSH dT cON cOO cOY cP cPA cPAA cPAAI cPAY cPE cPI cPII cPO
  cPOO cPOY cPWA cPWAA cPWE cPWI cPWII cPWO cPWOO cPWOY cQ cQA cQAA cQAAI cQAI cQI cQII cQO cQOO cR
  cR-CREE RE dRWE cRA cRAA cRAAI cRAY cRE cRI cRII cRO cROO cRWA cRWAA cRWEE cRWI cRWII cRWO cRWOO
  cS cSA cSAA cSAAI cSAY cSAYISI HA dHE dHI dHO dHOO dJI dJU dJUU dM dSHA dSHE dSHI dSHO dSHOO
  dSHWE dTH dYI cSE cSH cSHA cSHAA cSHAY cSHE cSHI cSHII cSHO cSHOO cSHOY cSHWA cSHWAA cSHWE cSHWI
  cSHWII cSHWO cSHWOO cSHWOY cSI cSII cSO cSOO cSOUTH-SLAVEY KAH dKEH dKIH dKOH cSOY cSPA cSPE cSPI
  cSPO cSW cSWA cSWAA cSWE cSWI cSWII cSWO cSWOO cT cTA cTAA cTAAI cTAY cTE cTH cTH-CREE TH dTHA
  dTHAA dTHE dTHI dTHII dTHO dTHOO cTHA cTHAA cTHE cTHI cTHII cTHO cTHOO cTHWA cTHWAA cTHWE cTI
  cTII cTLHA cTLHE cTLHI cTLHO cTLHOO cTLHWE cTO cTOO cTTA cTTE cTTH cTTHA cTTHAA cTTHE cTTHI cTTHO
  cTTHOO cTTHWE cTTI cTTO cTWA cTWAA cTWE cTWI cTWII cTWO cTWOO cTYA cTYE cTYI cTYO cWA cWAA cWAY
  cWE cWEST-CREE CWA dCWAA dCWE dCWI dCWII dCWO dCWOO dFWAA dKWA dKWAA dKWE dKWI dKWII dKWO dKWOO
  dL dLA dLAA dLE dLO dLOO dLWA dLWAA dLWE dLWI dLWII dLWO dLWOO dM dMWA dMWAA dMWE dMWI dMWII dMWO
  dMWOO dNWA dNWAA dNWE dP dPWA dPWAA dPWE dPWI dPWII dPWO dPWOO dR dRA dRE dRI dRO dRWAA dSHWA
  dSHWAA dSHWE dSHWI dSHWII dSHWO dSHWOO dSWA dSWAA dSWE dSWI dSWII dSWO dSWOO dTHWAA dTWA dTWAA
  dTWE dTWI dTWII dTWO dTWOO dWA dWAA dWE dWI dWII dWO dWOO dY dYWA dYWAA dYWE dYWI dYWII dYWO
  dYWOO cWESTERN W cWI cWII cWO cWOO cWOODS-CREE FINAL TH dTH dTHA dTHE dTHI dTHO dTHWA dTHWAA
  dTHWEE dTHWI dTHWII dTHWO dTHWOO cY cY-CREE COO dKOO dLOO dMOO dNOO dOO dPOO dPWAA dSOO dTOO dW
  dYOO cYA cYAA cYAAI cYAY cYE cYI cYII cYO cYOO cYOY cYWA cYWAA cYWE cYWI cYWII cYWO cYWOO aCANCEL
  bCHARACTER bTAG aCANCELLATION X aCANCER aCANDLE aCANDY aCANNED FOOD aCANOE aCAPITULUM aCAPRICORN
  aCAR SLIDING aCARD FILE BOX bINDEX cDIVIDERS aCARE OF aCARET bINSERTION POINT aCARIAN LETTER A
  cA2 cB cC-18 cC-39 cD cD2 cE cE2 cG cG2 cI cII cK cK2 cL cLD cLD2 cM cMB cMB2 cMB3 cMB4 cN cND
  cNG cNN cO cP cP2 cQ cR cRR cS cSH cSH2 cSS cST cST2 cT cTT cTT2 cU cUU cUUU cUUU2 cUUU3 cUUUU cX
  aCARON aCAROUSEL HORSE aCARP STREAMER aCARPENTRY SAW aCARRIAGE RETURN aCARROT aCASTLE aCAT bFACE
  cWITH TEARS OF JOY dWRY SMILE aCAUCASIAN ALBANIAN CITATION MARK cLETTER ALT dAOR dBET dCAR dCAYN
  dCHA dCHAT dCHI dCHOY dCYAW dCYAY dDAT dDYAN dDZAY dDZYAY dEB dEYN dFAM dGHEYS dGIM dHEYT dINYA
  dIRB dIWN dJAYN dJHOX dKAR dKIW dLAN dLYIT dMAQ dNOWC dON dPEN dPIWR dQAR dQAY dRAT dSEYK dSHA
  dSHAK dSHOY dTAS dTIWR dTYAY dVEYZ dXEYN dYAYD dYOWD dZARL dZHA dZHIL aCAUTION SIGN aCCH aCEDI
  SIGN aCEDILLA aCELTIC CROSS aCENT SIGN aCENTRE LINE SYMBOL aCENTRELINE LOW LINE bOVERLINE aCERES
  aCGJ aCHAINS aCHAIR aCHAKMA AU MARK bDANDA bDIGIT EIGHT cFIVE cFOUR cNINE cONE cSEVEN cSIX cTHREE
  cTWO cZERO bDOUBLE DANDA bLETTER AA cBAA cBHAA cCAA cCHAA cDAA cDDAA cDDHAA cDHAA cE cGAA cGHAA
  cHAA cI cJAA cJHAA cKAA cKHAA cLAA cLHAA cMAA cNAA cNGAA cNNAA cNYAA cPAA cPHAA cRAA cSAA cTAA
  cTHAA cTTAA cTTHAA cU cVAA cWAA cYAA cYYAA bMAAYYAA bO MARK bQUESTION MARK bSECTION MARK bSIGN
  ANUSVARA cCANDRABINDU cVISARGA bVIRAMA bVOWEL SIGN A dAA dAI dAU dE dEI dI dII dO dOI dU dUU
  aCHAM CONSONANT SIGN FINAL H eM eNG dLA dRA dWA dYA bDIGIT EIGHT cFIVE cFOUR cNINE cONE cSEVEN
  cSIX cTHREE cTWO cZERO bLETTER A cAI cBA cBBA cBHA cCHA cCHHA cDA cDDA cDHA cE cFINAL CH dG dK dL
  dN dNG dP dR dSS dT dY cGA cGHA cHA cI cJA cJHA cKA cKHA cLA cMA cMUE cNA cNGA cNGUE cNHA cNHJA
  cNHUE cNUE cO cPA cPHA cPPA cRA cSA cSSA cTA cTHA cU cVA cYA bPUNCTUATION DANDA cDOUBLE DANDA
  cSPIRAL cTRIPLE DANDA bVOWEL SIGN AA dAI dAU dEI dI dII dO dOE dU dUE aCHARACTER TABULATION cSET
  cWITH JUSTIFICATION bTIE aCHART WITH DOWNWARDS TREND cUPWARDS TREND eAND YEN SIGN aCHECK MARK
  aCHECKER BOARD cFILL aCHEERING MEGAPHONE aCHEESE WEDGE aCHEQUERED FLAG aCHEROKEE LETTER A cDA cDE
  cDI cDLA cDO cDU cDV cE cGA cGE cGI cGO cGU cGV cHA cHE cHI cHNA cHO cHU cHV cI cKA cLA cLE cLI
  cLO cLU cLV cMA cME cMI cMO cMU cMV cNA cNAH cNE cNI cNO cNU cNV cO cQUA cQUE cQUI cQUO cQUU cQUV
  cS cSA cSE cSI cSO cSU cSV cTA cTE cTI cTLA cTLE cTLI cTLO cTLU cTLV cTSA cTSE cTSI cTSO cTSU
  cTSV cU cV cWA cWE cWI cWO cWU cWV cYA cYE cYI cYO cYU cYV bSMALL LETTER A dDA dDE dDI dDLA dDO
  dDU dDV dE dGA dGE dGI dGO dGU dGV dHA dHE dHI dHNA dHO dHU dHV dI dKA dLA dLE dLI dLO dLU dLV
  dMA dME dMI dMO dMU dMV dNA dNAH dNE dNI dNO dNU dNV dO dQUA dQUE dQUI dQUO dQUU dQUV dS dSA dSE
  dSI dSO dSU dSV dTA dTE dTI dTLA dTLE dTLI dTLO dTLU dTLV dTSA dTSE dTSI dTSO dTSU dTSV dU dV dWA
  dWE dWI dWO dWU dWV dYA dYE dYI dYO dYU dYV aCHERRIES aCHERRY BLOSSOM aCHESTNUT aCHI RHO aCHICKEN
  aCHILD aCHILDREN CROSSING aCHIPMUNK aCHIRON aCHOCOLATE BAR aCHOPSTICKS aCHORASMIAN LETTER ALEPH
  cAYIN cBETH cCURLED WAW cDALETH cGIMEL cHE cHETH cKAPH cLAMEDH cMEM cNUN cPE cRESH cSAMEKH cSHIN
  cSMALL ALEPH cTAW cWAW cYODH cZAYIN bNUMBER FOUR cONE dHUNDRED cTEN cTHREE cTWENTY cTWO
  aCHRISTMAS TREE aCHURCH aCINEMA aCIRCLE DIVIDED BY HORIZONTAL BAR AND TOP HALF DIVIDED BY
  VERTICAL BAR bWITH ALL BUT UPPER LEFT QUADRANT BLACK cHORIZONTAL BAR cLEFT HALF BLACK cLOWER HALF
  BLACK cRIGHT HALF BLACK cSMALL CIRCLE TO THE RIGHT cSUPERIMPOSED X cTWO HORIZONTAL STROKES TO THE
  RIGHT cUPPER HALF BLACK dRIGHT QUADRANT BLACK cVERTICAL FILL aCIRCLED ANTICLOCKWISE ARROW
  bANTICLOCKWISE-ROTATED DIVISION SIGN bASTERISK OPERATOR bBOLD X bBULLET bC WITH OVERLAID
  BACKSLASH bCC bCD bCROSS FORMEE dWITH FOUR DOTS eTWO DOTS cPOMMEE bCROSSING LANES bDASH bDIGIT
  EIGHT cFIVE cFOUR cNINE cONE cSEVEN cSIX cTHREE cTWO cZERO bDIVISION SIGN cSLASH bDOLLAR SIGN
  WITH OVERLAID BACKSLASH bDOT OPERATOR bEQUALS bGREATER-THAN bHANGUL CHIEUCH dA cCIEUC dA cHIEUH
  dA cIEUNG dA dU cKHIEUKH dA cKIYEOK dA cMIEUM dA cNIEUN dA cPHIEUPH dA cPIEUP dA cRIEUL dA cSIOS
  dA cTHIEUTH dA cTIKEUT dA bHEAVY WHITE RIGHTWARDS ARROW bHORIZONTAL BAR WITH NOTCH bHUMAN FIGURE
  bIDEOGRAPH ACCEPT cADVANTAGE cALLIANCE cATTENTION cCENTRE cCONGRATULATION cCOPY cCORRECT cEARTH
  cEIGHT cENTERPRISE cEXCELLENT cFEMALE cFINANCIAL cFIRE cFIVE cFOUR cHAVE cHIGH cITEM
  cKINDERGARTEN cKOTO cLABOR cLEFT cLOW cMALE cMEDICINE cMETAL cMOON cNAME cNIGHT cNINE cONE cPRINT
  cQUESTION cRELIGION cRESOURCE cREST cRIGHT cSCHOOL cSECRET cSEVEN cSIX cSOCIETY cSPECIAL cSTOCK
  cSTUDY cSUITABLE cSUN cSUPERVISE cTEN cTHREE cTWO cWATER cWOOD bINFORMATION SOURCE bITALIC LATIN
  CAPITAL LETTER C fR bKATAKANA A cE cHA cHE cHI cHO cHU cI cKA cKE cKI cKO cKU cMA cME cMI cMO cMU
  cNA cNE cNI cNO cNU cO cRA cRE cRI cRO cRU cSA cSE cSI cSO cSU cTA cTE cTI cTO cTU cU cWA cWE cWI
  cWO cYA cYO cYU bKOREAN CHARACTER CHAMKO dJUEUI bLATIN CAPITAL LETTER A eB eC eD eE eF eG eH eI
  eJ eK eL eM eN eO eP eQ eR eS eT eU eV eW eX eY eZ cSMALL LETTER A eB eC eD eE eF eG eH eI eJ eK
  eL eM eN eO eP eQ eR eS eT eU eV eW eX eY eZ bLESS-THAN bMINUS bMULTIPLICATION SIGN WITH
  CIRCUMFLEX ACCENT bNUMBER EIGHTEEN cEIGHTY ON BLACK SQUARE cELEVEN cFIFTEEN cFIFTY dON BLACK
  SQUARE cFORTY dEIGHT dFIVE dFOUR dNINE dON BLACK SQUARE dONE dSEVEN dSIX dTHREE dTWO cFOURTEEN
  cNINETEEN cSEVENTEEN cSEVENTY ON BLACK SQUARE cSIXTEEN cSIXTY ON BLACK SQUARE cTEN dON BLACK
  SQUARE cTHIRTEEN cTHIRTY dEIGHT dFIVE dFOUR dNINE dON BLACK SQUARE dONE dSEVEN dSIX dTHREE dTWO
  cTWELVE cTWENTY dEIGHT dFIVE dFOUR dNINE dON BLACK SQUARE dONE dSEVEN dSIX dTHREE dTWO bOPEN
  CENTRE EIGHT POINTED STAR bPARALLEL bPERPENDICULAR bPLUS bPOSTAL MARK bREVERSE SOLIDUS bRING
  OPERATOR bSQUARE bTIMES bTRIANGLE cDOWN bVERTICAL BAR bWHITE BULLET cSTAR bWZ bX bZERO WITH SLASH
  aCIRCULATION FUNCTION aCIRCUMFLEX ACCENT aCIRCUS TENT aCITYSCAPE bAT DUSK aCJK COMPATIBILITY
  IDEOGRAPH-2F800 cIDEOGRAPH-2F801 cIDEOGRAPH-2F802 cIDEOGRAPH-2F803 cIDEOGRAPH-2F804
  cIDEOGRAPH-2F805 cIDEOGRAPH-2F806 cIDEOGRAPH-2F807 cIDEOGRAPH-2F808 cIDEOGRAPH-2F809
  cIDEOGRAPH-2F80A cIDEOGRAPH-2F80B cIDEOGRAPH-2F80C cIDEOGRAPH-2F80D cIDEOGRAPH-2F80E
  cIDEOGRAPH-2F80F cIDEOGRAPH-2F810 cIDEOGRAPH-2F811 cIDEOGRAPH-2F812 cIDEOGRAPH-2F813
  cIDEOGRAPH-2F814 cIDEOGRAPH-2F815 cIDEOGRAPH-2F816 cIDEOGRAPH-2F817 cIDEOGRAPH-2F818
  cIDEOGRAPH-2F819 cIDEOGRAPH-2F81A cIDEOGRAPH-2F81B cIDEOGRAPH-2F81C cIDEOGRAPH-2F81D
  cIDEOGRAPH-2F81E cIDEOGRAPH-2F81F cIDEOGRAPH-2F820 cIDEOGRAPH-2F821 cIDEOGRAPH-2F822
  cIDEOGRAPH-2F823 cIDEOGRAPH-2F824 cIDEOGRAPH-2F825 cIDEOGRAPH-2F826 cIDEOGRAPH-2F827
  cIDEOGRAPH-2F828 cIDEOGRAPH-2F829 cIDEOGRAPH-2F82A cIDEOGRAPH-2F82B cIDEOGRAPH-2F82C
  cIDEOGRAPH-2F82D cIDEOGRAPH-2F82E cIDEOGRAPH-2F82F cIDEOGRAPH-2F830 cIDEOGRAPH-2F831
  cIDEOGRAPH-2F832 cIDEOGRAPH-2F833 cIDEOGRAPH-2F834 cIDEOGRAPH-2F835 cIDEOGRAPH-2F836
  cIDEOGRAPH-2F837 cIDEOGRAPH-2F838 cIDEOGRAPH-2F839 cIDEOGRAPH-2F83A cIDEOGRAPH-2F83B
  cIDEOGRAPH-2F83C cIDEOGRAPH-2F83D cIDEOGRAPH-2F83E cIDEOGRAPH-2F83F cIDEOGRAPH-2F840
  cIDEOGRAPH-2F841 cIDEOGRAPH-2F842 cIDEOGRAPH-2F843 cIDEOGRAPH-2F844 cIDEOGRAPH-2F845
  cIDEOGRAPH-2F846 cIDEOGRAPH-2F847 cIDEOGRAPH-2F848 cIDEOGRAPH-2F849 cIDEOGRAPH-2F84A
  cIDEOGRAPH-2F84B cIDEOGRAPH-2F84C cIDEOGRAPH-2F84D cIDEOGRAPH-2F84E cIDEOGRAPH-2F84F
  cIDEOGRAPH-2F850 cIDEOGRAPH-2F851 cIDEOGRAPH-2F852 cIDEOGRAPH-2F853 cIDEOGRAPH-2F854
  cIDEOGRAPH-2F855 cIDEOGRAPH-2F856 cIDEOGRAPH-2F857 cIDEOGRAPH-2F858 cIDEOGRAPH-2F859
  cIDEOGRAPH-2F85A cIDEOGRAPH-2F85B cIDEOGRAPH-2F85C cIDEOGRAPH-2F85D cIDEOGRAPH-2F85E
  cIDEOGRAPH-2F85F cIDEOGRAPH-2F860 cIDEOGRAPH-2F861 cIDEOGRAPH-2F862 cIDEOGRAPH-2F863
  cIDEOGRAPH-2F864 cIDEOGRAPH-2F865 cIDEOGRAPH-2F866 cIDEOGRAPH-2F867 cIDEOGRAPH-2F868
  cIDEOGRAPH-2F869 cIDEOGRAPH-2F86A cIDEOGRAPH-2F86B cIDEOGRAPH-2F86C cIDEOGRAPH-2F86D
  cIDEOGRAPH-2F86E cIDEOGRAPH-2F86F cIDEOGRAPH-2F870 cIDEOGRAPH-2F871 cIDEOGRAPH-2F872
  cIDEOGRAPH-2F873 cIDEOGRAPH-2F874 cIDEOGRAPH-2F875 cIDEOGRAPH-2F876 cIDEOGRAPH-2F877
  cIDEOGRAPH-2F878 cIDEOGRAPH-2F879 cIDEOGRAPH-2F87A cIDEOGRAPH-2F87B cIDEOGRAPH-2F87C
  cIDEOGRAPH-2F87D cIDEOGRAPH-2F87E cIDEOGRAPH-2F87F cIDEOGRAPH-2F880 cIDEOGRAPH-2F881
  cIDEOGRAPH-2F882 cIDEOGRAPH-2F883 cIDEOGRAPH-2F884 cIDEOGRAPH-2F885 cIDEOGRAPH-2F886
  cIDEOGRAPH-2F887 cIDEOGRAPH-2F888 cIDEOGRAPH-2F889 cIDEOGRAPH-2F88A cIDEOGRAPH-2F88B
  cIDEOGRAPH-2F88C cIDEOGRAPH-2F88D cIDEOGRAPH-2F88E cIDEOGRAPH-2F88F cIDEOGRAPH-2F890
  cIDEOGRAPH-2F891 cIDEOGRAPH-2F892 cIDEOGRAPH-2F893 cIDEOGRAPH-2F894 cIDEOGRAPH-2F895
  cIDEOGRAPH-2F896 cIDEOGRAPH-2F897 cIDEOGRAPH-2F898 cIDEOGRAPH-2F899 cIDEOGRAPH-2F89A
  cIDEOGRAPH-2F89B cIDEOGRAPH-2F89C cIDEOGRAPH-2F89D cIDEOGRAPH-2F89E cIDEOGRAPH-2F89F
  cIDEOGRAPH-2F8A0 cIDEOGRAPH-2F8A1 cIDEOGRAPH-2F8A2 cIDEOGRAPH-2F8A3 cIDEOGRAPH-2F8A4
  cIDEOGRAPH-2F8A5 cIDEOGRAPH-2F8A6 cIDEOGRAPH-2F8A7 cIDEOGRAPH-2F8A8 cIDEOGRAPH-2F8A9
  cIDEOGRAPH-2F8AA cIDEOGRAPH-2F8AB cIDEOGRAPH-2F8AC cIDEOGRAPH-2F8AD cIDEOGRAPH-2F8AE
  cIDEOGRAPH-2F8AF cIDEOGRAPH-2F8B0 cIDEOGRAPH-2F8B1 cIDEOGRAPH-2F8B2 cIDEOGRAPH-2F8B3
  cIDEOGRAPH-2F8B4 cIDEOGRAPH-2F8B5 cIDEOGRAPH-2F8B6 cIDEOGRAPH-2F8B7 cIDEOGRAPH-2F8B8
  cIDEOGRAPH-2F8B9 cIDEOGRAPH-2F8BA cIDEOGRAPH-2F8BB cIDEOGRAPH-2F8BC cIDEOGRAPH-2F8BD
  cIDEOGRAPH-2F8BE cIDEOGRAPH-2F8BF cIDEOGRAPH-2F8C0 cIDEOGRAPH-2F8C1 cIDEOGRAPH-2F8C2
  cIDEOGRAPH-2F8C3 cIDEOGRAPH-2F8C4 cIDEOGRAPH-2F8C5 cIDEOGRAPH-2F8C6 cIDEOGRAPH-2F8C7
  cIDEOGRAPH-2F8C8 cIDEOGRAPH-2F8C9 cIDEOGRAPH-2F8CA cIDEOGRAPH-2F8CB cIDEOGRAPH-2F8CC
  cIDEOGRAPH-2F8CD cIDEOGRAPH-2F8CE cIDEOGRAPH-2F8CF cIDEOGRAPH-2F8D0 cIDEOGRAPH-2F8D1
  cIDEOGRAPH-2F8D2 cIDEOGRAPH-2F8D3 cIDEOGRAPH-2F8D4 cIDEOGRAPH-2F8D5 cIDEOGRAPH-2F8D6
  cIDEOGRAPH-2F8D7 cIDEOGRAPH-2F8D8 cIDEOGRAPH-2F8D9 cIDEOGRAPH-2F8DA cIDEOGRAPH-2F8DB
  cIDEOGRAPH-2F8DC cIDEOGRAPH-2F8DD cIDEOGRAPH-2F8DE cIDEOGRAPH-2F8DF cIDEOGRAPH-2F8E0
  cIDEOGRAPH-2F8E1 cIDEOGRAPH-2F8E2 cIDEOGRAPH-2F8E3 cIDEOGRAPH-2F8E4 cIDEOGRAPH-2F8E5
  cIDEOGRAPH-2F8E6 cIDEOGRAPH-2F8E7 cIDEOGRAPH-2F8E8 cIDEOGRAPH-2F8E9 cIDEOGRAPH-2F8EA
  cIDEOGRAPH-2F8EB cIDEOGRAPH-2F8EC cIDEOGRAPH-2F8ED cIDEOGRAPH-2F8EE cIDEOGRAPH-2F8EF
  cIDEOGRAPH-2F8F0 cIDEOGRAPH-2F8F1 cIDEOGRAPH-2F8F2 cIDEOGRAPH-2F8F3 cIDEOGRAPH-2F8F4
  cIDEOGRAPH-2F8F5 cIDEOGRAPH-2F8F6 cIDEOGRAPH-2F8F7 cIDEOGRAPH-2F8F8 cIDEOGRAPH-2F8F9
  cIDEOGRAPH-2F8FA cIDEOGRAPH-2F8FB cIDEOGRAPH-2F8FC cIDEOGRAPH-2F8FD cIDEOGRAPH-2F8FE
  cIDEOGRAPH-2F8FF cIDEOGRAPH-2F900 cIDEOGRAPH-2F901 cIDEOGRAPH-2F902 cIDEOGRAPH-2F903
  cIDEOGRAPH-2F904 cIDEOGRAPH-2F905 cIDEOGRAPH-2F906 cIDEOGRAPH-2F907 cIDEOGRAPH-2F908
  cIDEOGRAPH-2F909 cIDEOGRAPH-2F90A cIDEOGRAPH-2F90B cIDEOGRAPH-2F90C cIDEOGRAPH-2F90D
  cIDEOGRAPH-2F90E cIDEOGRAPH-2F90F cIDEOGRAPH-2F910 cIDEOGRAPH-2F911 cIDEOGRAPH-2F912
  cIDEOGRAPH-2F913 cIDEOGRAPH-2F914 cIDEOGRAPH-2F915 cIDEOGRAPH-2F916 cIDEOGRAPH-2F917
  cIDEOGRAPH-2F918 cIDEOGRAPH-2F919 cIDEOGRAPH-2F91A cIDEOGRAPH-2F91B cIDEOGRAPH-2F91C
  cIDEOGRAPH-2F91D cIDEOGRAPH-2F91E cIDEOGRAPH-2F91F cIDEOGRAPH-2F920 cIDEOGRAPH-2F921
  cIDEOGRAPH-2F922 cIDEOGRAPH-2F923 cIDEOGRAPH-2F924 cIDEOGRAPH-2F925 cIDEOGRAPH-2F926
  cIDEOGRAPH-2F927 cIDEOGRAPH-2F928 cIDEOGRAPH-2F929 cIDEOGRAPH-2F92A cIDEOGRAPH-2F92B
  cIDEOGRAPH-2F92C cIDEOGRAPH-2F92D cIDEOGRAPH-2F92E cIDEOGRAPH-2F92F cIDEOGRAPH-2F930
  cIDEOGRAPH-2F931 cIDEOGRAPH-2F932 cIDEOGRAPH-2F933 cIDEOGRAPH-2F934 cIDEOGRAPH-2F935
  cIDEOGRAPH-2F936 cIDEOGRAPH-2F937 cIDEOGRAPH-2F938 cIDEOGRAPH-2F939 cIDEOGRAPH-2F93A
  cIDEOGRAPH-2F93B cIDEOGRAPH-2F93C cIDEOGRAPH-2F93D cIDEOGRAPH-2F93E cIDEOGRAPH-2F93F
  cIDEOGRAPH-2F940 cIDEOGRAPH-2F941 cIDEOGRAPH-2F942 cIDEOGRAPH-2F943 cIDEOGRAPH-2F944
  cIDEOGRAPH-2F945 cIDEOGRAPH-2F946 cIDEOGRAPH-2F947 cIDEOGRAPH-2F948 cIDEOGRAPH-2F949
  cIDEOGRAPH-2F94A cIDEOGRAPH-2F94B cIDEOGRAPH-2F94C cIDEOGRAPH-2F94D cIDEOGRAPH-2F94E
  cIDEOGRAPH-2F94F cIDEOGRAPH-2F950 cIDEOGRAPH-2F951 cIDEOGRAPH-2F952 cIDEOGRAPH-2F953
  cIDEOGRAPH-2F954 cIDEOGRAPH-2F955 cIDEOGRAPH-2F956 cIDEOGRAPH-2F957 cIDEOGRAPH-2F958
  cIDEOGRAPH-2F959 cIDEOGRAPH-2F95A cIDEOGRAPH-2F95B cIDEOGRAPH-2F95C cIDEOGRAPH-2F95D
  cIDEOGRAPH-2F95E cIDEOGRAPH-2F95F cIDEOGRAPH-2F960 cIDEOGRAPH-2F961 cIDEOGRAPH-2F962
  cIDEOGRAPH-2F963 cIDEOGRAPH-2F964 cIDEOGRAPH-2F965 cIDEOGRAPH-2F966 cIDEOGRAPH-2F967
  cIDEOGRAPH-2F968 cIDEOGRAPH-2F969 cIDEOGRAPH-2F96A cIDEOGRAPH-2F96B cIDEOGRAPH-2F96C
  cIDEOGRAPH-2F96D cIDEOGRAPH-2F96E cIDEOGRAPH-2F96F cIDEOGRAPH-2F970 cIDEOGRAPH-2F971
  cIDEOGRAPH-2F972 cIDEOGRAPH-2F973 cIDEOGRAPH-2F974 cIDEOGRAPH-2F975 cIDEOGRAPH-2F976
  cIDEOGRAPH-2F977 cIDEOGRAPH-2F978 cIDEOGRAPH-2F979 cIDEOGRAPH-2F97A cIDEOGRAPH-2F97B
  cIDEOGRAPH-2F97C cIDEOGRAPH-2F97D cIDEOGRAPH-2F97E cIDEOGRAPH-2F97F cIDEOGRAPH-2F980
  cIDEOGRAPH-2F981 cIDEOGRAPH-2F982 cIDEOGRAPH-2F983 cIDEOGRAPH-2F984 cIDEOGRAPH-2F985
  cIDEOGRAPH-2F986 cIDEOGRAPH-2F987 cIDEOGRAPH-2F988 cIDEOGRAPH-2F989 cIDEOGRAPH-2F98A
  cIDEOGRAPH-2F98B cIDEOGRAPH-2F98C cIDEOGRAPH-2F98D cIDEOGRAPH-2F98E cIDEOGRAPH-2F98F
  cIDEOGRAPH-2F990 cIDEOGRAPH-2F991 cIDEOGRAPH-2F992 cIDEOGRAPH-2F993 cIDEOGRAPH-2F994
  cIDEOGRAPH-2F995 cIDEOGRAPH-2F996 cIDEOGRAPH-2F997 cIDEOGRAPH-2F998 cIDEOGRAPH-2F999
  cIDEOGRAPH-2F99A cIDEOGRAPH-2F99B cIDEOGRAPH-2F99C cIDEOGRAPH-2F99D cIDEOGRAPH-2F99E
  cIDEOGRAPH-2F99F cIDEOGRAPH-2F9A0 cIDEOGRAPH-2F9A1 cIDEOGRAPH-2F9A2 cIDEOGRAPH-2F9A3
  cIDEOGRAPH-2F9A4 cIDEOGRAPH-2F9A5 cIDEOGRAPH-2F9A6 cIDEOGRAPH-2F9A7 cIDEOGRAPH-2F9A8
  cIDEOGRAPH-2F9A9 cIDEOGRAPH-2F9AA cIDEOGRAPH-2F9AB cIDEOGRAPH-2F9AC cIDEOGRAPH-2F9AD
  cIDEOGRAPH-2F9AE cIDEOGRAPH-2F9AF cIDEOGRAPH-2F9B0 cIDEOGRAPH-2F9B1 cIDEOGRAPH-2F9B2
  cIDEOGRAPH-2F9B3 cIDEOGRAPH-2F9B4 cIDEOGRAPH-2F9B5 cIDEOGRAPH-2F9B6 cIDEOGRAPH-2F9B7
  cIDEOGRAPH-2F9B8 cIDEOGRAPH-2F9B9 cIDEOGRAPH-2F9BA cIDEOGRAPH-2F9BB cIDEOGRAPH-2F9BC
  cIDEOGRAPH-2F9BD cIDEOGRAPH-2F9BE cIDEOGRAPH-2F9BF cIDEOGRAPH-2F9C0 cIDEOGRAPH-2F9C1
  cIDEOGRAPH-2F9C2 cIDEOGRAPH-2F9C3 cIDEOGRAPH-2F9C4 cIDEOGRAPH-2F9C5 cIDEOGRAPH-2F9C6
  cIDEOGRAPH-2F9C7 cIDEOGRAPH-2F9C8 cIDEOGRAPH-2F9C9 cIDEOGRAPH-2F9CA cIDEOGRAPH-2F9CB
  cIDEOGRAPH-2F9CC cIDEOGRAPH-2F9CD cIDEOGRAPH-2F9CE cIDEOGRAPH-2F9CF cIDEOGRAPH-2F9D0
  cIDEOGRAPH-2F9D1 cIDEOGRAPH-2F9D2 cIDEOGRAPH-2F9D3 cIDEOGRAPH-2F9D4 cIDEOGRAPH-2F9D5
  cIDEOGRAPH-2F9D6 cIDEOGRAPH-2F9D7 cIDEOGRAPH-2F9D8 cIDEOGRAPH-2F9D9 cIDEOGRAPH-2F9DA
  cIDEOGRAPH-2F9DB cIDEOGRAPH-2F9DC cIDEOGRAPH-2F9DD cIDEOGRAPH-2F9DE cIDEOGRAPH-2F9DF
  cIDEOGRAPH-2F9E0 cIDEOGRAPH-2F9E1 cIDEOGRAPH-2F9E2 cIDEOGRAPH-2F9E3 cIDEOGRAPH-2F9E4
  cIDEOGRAPH-2F9E5 cIDEOGRAPH-2F9E6 cIDEOGRAPH-2F9E7 cIDEOGRAPH-2F9E8 cIDEOGRAPH-2F9E9
  cIDEOGRAPH-2F9EA cIDEOGRAPH-2F9EB cIDEOGRAPH-2F9EC cIDEOGRAPH-2F9ED cIDEOGRAPH-2F9EE
  cIDEOGRAPH-2F9EF cIDEOGRAPH-2F9F0 cIDEOGRAPH-2F9F1 cIDEOGRAPH-2F9F2 cIDEOGRAPH-2F9F3
  cIDEOGRAPH-2F9F4 cIDEOGRAPH-2F9F5 cIDEOGRAPH-2F9F6 cIDEOGRAPH-2F9F7 cIDEOGRAPH-2F9F8
  cIDEOGRAPH-2F9F9 cIDEOGRAPH-2F9FA cIDEOGRAPH-2F9FB cIDEOGRAPH-2F9FC cIDEOGRAPH-2F9FD
  cIDEOGRAPH-2F9FE cIDEOGRAPH-2F9FF cIDEOGRAPH-2FA00 cIDEOGRAPH-2FA01 cIDEOGRAPH-2FA02
  cIDEOGRAPH-2FA03 cIDEOGRAPH-2FA04 cIDEOGRAPH-2FA05 cIDEOGRAPH-2FA06 cIDEOGRAPH-2FA07
  cIDEOGRAPH-2FA08 cIDEOGRAPH-2FA09 cIDEOGRAPH-2FA0A cIDEOGRAPH-2FA0B cIDEOGRAPH-2FA0C
  cIDEOGRAPH-2FA0D cIDEOGRAPH-2FA0E cIDEOGRAPH-2FA0F cIDEOGRAPH-2FA10 cIDEOGRAPH-2FA11
  cIDEOGRAPH-2FA12 cIDEOGRAPH-2FA13 cIDEOGRAPH-2FA14 cIDEOGRAPH-2FA15 cIDEOGRAPH-2FA16
  cIDEOGRAPH-2FA17 cIDEOGRAPH-2FA18 cIDEOGRAPH-2FA19 cIDEOGRAPH-2FA1A cIDEOGRAPH-2FA1B
  cIDEOGRAPH-2FA1C cIDEOGRAPH-2FA1D cIDEOGRAPH-F900 cIDEOGRAPH-F901 cIDEOGRAPH-F902 cIDEOGRAPH-F903
  cIDEOGRAPH-F904 cIDEOGRAPH-F905 cIDEOGRAPH-F906 cIDEOGRAPH-F907 cIDEOGRAPH-F908 cIDEOGRAPH-F909
  cIDEOGRAPH-F90A cIDEOGRAPH-F90B cIDEOGRAPH-F90C cIDEOGRAPH-F90D cIDEOGRAPH-F90E cIDEOGRAPH-F90F
  cIDEOGRAPH-F910 cIDEOGRAPH-F911 cIDEOGRAPH-F912 cIDEOGRAPH-F913 cIDEOGRAPH-F914 cIDEOGRAPH-F915
  cIDEOGRAPH-F916 cIDEOGRAPH-F917 cIDEOGRAPH-F918 cIDEOGRAPH-F919 cIDEOGRAPH-F91A cIDEOGRAPH-F91B
  cIDEOGRAPH-F91C cIDEOGRAPH-F91D cIDEOGRAPH-F91E cIDEOGRAPH-F91F cIDEOGRAPH-F920 cIDEOGRAPH-F921
  cIDEOGRAPH-F922 cIDEOGRAPH-F923 cIDEOGRAPH-F924 cIDEOGRAPH-F925 cIDEOGRAPH-F926 cIDEOGRAPH-F927
  cIDEOGRAPH-F928 cIDEOGRAPH-F929 cIDEOGRAPH-F92A cIDEOGRAPH-F92B cIDEOGRAPH-F92C cIDEOGRAPH-F92D
  cIDEOGRAPH-F92E cIDEOGRAPH-F92F cIDEOGRAPH-F930 cIDEOGRAPH-F931 cIDEOGRAPH-F932 cIDEOGRAPH-F933
  cIDEOGRAPH-F934 cIDEOGRAPH-F935 cIDEOGRAPH-F936 cIDEOGRAPH-F937 cIDEOGRAPH-F938 cIDEOGRAPH-F939
  cIDEOGRAPH-F93A cIDEOGRAPH-F93B cIDEOGRAPH-F93C cIDEOGRAPH-F93D cIDEOGRAPH-F93E cIDEOGRAPH-F93F
  cIDEOGRAPH-F940 cIDEOGRAPH-F941 cIDEOGRAPH-F942 cIDEOGRAPH-F943 cIDEOGRAPH-F944 cIDEOGRAPH-F945
  cIDEOGRAPH-F946 cIDEOGRAPH-F947 cIDEOGRAPH-F948 cIDEOGRAPH-F949 cIDEOGRAPH-F94A cIDEOGRAPH-F94B
  cIDEOGRAPH-F94C cIDEOGRAPH-F94D cIDEOGRAPH-F94E cIDEOGRAPH-F94F cIDEOGRAPH-F950 cIDEOGRAPH-F951
  cIDEOGRAPH-F952 cIDEOGRAPH-F953 cIDEOGRAPH-F954 cIDEOGRAPH-F955 cIDEOGRAPH-F956 cIDEOGRAPH-F957
  cIDEOGRAPH-F958 cIDEOGRAPH-F959 cIDEOGRAPH-F95A cIDEOGRAPH-F95B cIDEOGRAPH-F95C cIDEOGRAPH-F95D
  cIDEOGRAPH-F95E cIDEOGRAPH-F95F cIDEOGRAPH-F960 cIDEOGRAPH-F961 cIDEOGRAPH-F962 cIDEOGRAPH-F963
  cIDEOGRAPH-F964 cIDEOGRAPH-F965 cIDEOGRAPH-F966 cIDEOGRAPH-F967 cIDEOGRAPH-F968 cIDEOGRAPH-F969
  cIDEOGRAPH-F96A cIDEOGRAPH-F96B cIDEOGRAPH-F96C cIDEOGRAPH-F96D cIDEOGRAPH-F96E cIDEOGRAPH-F96F
  cIDEOGRAPH-F970 cIDEOGRAPH-F971 cIDEOGRAPH-F972 cIDEOGRAPH-F973 cIDEOGRAPH-F974 cIDEOGRAPH-F975
  cIDEOGRAPH-F976 cIDEOGRAPH-F977 cIDEOGRAPH-F978 cIDEOGRAPH-F979 cIDEOGRAPH-F97A cIDEOGRAPH-F97B
  cIDEOGRAPH-F97C cIDEOGRAPH-F97D cIDEOGRAPH-F97E cIDEOGRAPH-F97F cIDEOGRAPH-F980 cIDEOGRAPH-F981
  cIDEOGRAPH-F982 cIDEOGRAPH-F983 cIDEOGRAPH-F984 cIDEOGRAPH-F985 cIDEOGRAPH-F986 cIDEOGRAPH-F987
  cIDEOGRAPH-F988 cIDEOGRAPH-F989 cIDEOGRAPH-F98A cIDEOGRAPH-F98B cIDEOGRAPH-F98C cIDEOGRAPH-F98D
  cIDEOGRAPH-F98E cIDEOGRAPH-F98F cIDEOGRAPH-F990 cIDEOGRAPH-F991 cIDEOGRAPH-F992 cIDEOGRAPH-F993
  cIDEOGRAPH-F994 cIDEOGRAPH-F995 cIDEOGRAPH-F996 cIDEOGRAPH-F997 cIDEOGRAPH-F998 cIDEOGRAPH-F999
  cIDEOGRAPH-F99A cIDEOGRAPH-F99B cIDEOGRAPH-F99C cIDEOGRAPH-F99D cIDEOGRAPH-F99E cIDEOGRAPH-F99F
  cIDEOGRAPH-F9A0 cIDEOGRAPH-F9A1 cIDEOGRAPH-F9A2 cIDEOGRAPH-F9A3 cIDEOGRAPH-F9A4 cIDEOGRAPH-F9A5
  cIDEOGRAPH-F9A6 cIDEOGRAPH-F9A7 cIDEOGRAPH-F9A8 cIDEOGRAPH-F9A9 cIDEOGRAPH-F9AA cIDEOGRAPH-F9AB
  cIDEOGRAPH-F9AC cIDEOGRAPH-F9AD cIDEOGRAPH-F9AE cIDEOGRAPH-F9AF cIDEOGRAPH-F9B0 cIDEOGRAPH-F9B1
  cIDEOGRAPH-F9B2 cIDEOGRAPH-F9B3 cIDEOGRAPH-F9B4 cIDEOGRAPH-F9B5 cIDEOGRAPH-F9B6 cIDEOGRAPH-F9B7
  cIDEOGRAPH-F9B8 cIDEOGRAPH-F9B9 cIDEOGRAPH-F9BA cIDEOGRAPH-F9BB cIDEOGRAPH-F9BC cIDEOGRAPH-F9BD
  cIDEOGRAPH-F9BE cIDEOGRAPH-F9BF cIDEOGRAPH-F9C0 cIDEOGRAPH-F9C1 cIDEOGRAPH-F9C2 cIDEOGRAPH-F9C3
  cIDEOGRAPH-F9C4 cIDEOGRAPH-F9C5 cIDEOGRAPH-F9C6 cIDEOGRAPH-F9C7 cIDEOGRAPH-F9C8 cIDEOGRAPH-F9C9
  cIDEOGRAPH-F9CA cIDEOGRAPH-F9CB cIDEOGRAPH-F9CC cIDEOGRAPH-F9CD cIDEOGRAPH-F9CE cIDEOGRAPH-F9CF
  cIDEOGRAPH-F9D0 cIDEOGRAPH-F9D1 cIDEOGRAPH-F9D2 cIDEOGRAPH-F9D3 cIDEOGRAPH-F9D4 cIDEOGRAPH-F9D5
  cIDEOGRAPH-F9D6 cIDEOGRAPH-F9D7 cIDEOGRAPH-F9D8 cIDEOGRAPH-F9D9 cIDEOGRAPH-F9DA cIDEOGRAPH-F9DB
  cIDEOGRAPH-F9DC cIDEOGRAPH-F9DD cIDEOGRAPH-F9DE cIDEOGRAPH-F9DF cIDEOGRAPH-F9E0 cIDEOGRAPH-F9E1
  cIDEOGRAPH-F9E2 cIDEOGRAPH-F9E3 cIDEOGRAPH-F9E4 cIDEOGRAPH-F9E5 cIDEOGRAPH-F9E6 cIDEOGRAPH-F9E7
  cIDEOGRAPH-F9E8 cIDEOGRAPH-F9E9 cIDEOGRAPH-F9EA cIDEOGRAPH-F9EB cIDEOGRAPH-F9EC cIDEOGRAPH-F9ED
  cIDEOGRAPH-F9EE cIDEOGRAPH-F9EF cIDEOGRAPH-F9F0 cIDEOGRAPH-F9F1 cIDEOGRAPH-F9F2 cIDEOGRAPH-F9F3
  cIDEOGRAPH-F9F4 cIDEOGRAPH-F9F5 cIDEOGRAPH-F9F6 cIDEOGRAPH-F9F7 cIDEOGRAPH-F9F8 cIDEOGRAPH-F9F9
  cIDEOGRAPH-F9FA cIDEOGRAPH-F9FB cIDEOGRAPH-F9FC cIDEOGRAPH-F9FD cIDEOGRAPH-F9FE cIDEOGRAPH-F9FF
  cIDEOGRAPH-FA00 cIDEOGRAPH-FA01 cIDEOGRAPH-FA02 cIDEOGRAPH-FA03 cIDEOGRAPH-FA04 cIDEOGRAPH-FA05
  cIDEOGRAPH-FA06 cIDEOGRAPH-FA07 cIDEOGRAPH-FA08 cIDEOGRAPH-FA09 cIDEOGRAPH-FA0A cIDEOGRAPH-FA0B
  cIDEOGRAPH-FA0C cIDEOGRAPH-FA0D cIDEOGRAPH-FA0E cIDEOGRAPH-FA0F cIDEOGRAPH-FA10 cIDEOGRAPH-FA11
  cIDEOGRAPH-FA12 cIDEOGRAPH-FA13 cIDEOGRAPH-FA14 cIDEOGRAPH-FA15 cIDEOGRAPH-FA16 cIDEOGRAPH-FA17
  cIDEOGRAPH-FA18 cIDEOGRAPH-FA19 cIDEOGRAPH-FA1A cIDEOGRAPH-FA1B cIDEOGRAPH-FA1C cIDEOGRAPH-FA1D
  cIDEOGRAPH-FA1E cIDEOGRAPH-FA1F cIDEOGRAPH-FA20 cIDEOGRAPH-FA21 cIDEOGRAPH-FA22 cIDEOGRAPH-FA23
  cIDEOGRAPH-FA24 cIDEOGRAPH-FA25 cIDEOGRAPH-FA26 cIDEOGRAPH-FA27 cIDEOGRAPH-FA28 cIDEOGRAPH-FA29
  cIDEOGRAPH-FA2A cIDEOGRAPH-FA2B cIDEOGRAPH-FA2C cIDEOGRAPH-FA2D cIDEOGRAPH-FA2E cIDEOGRAPH-FA2F
  cIDEOGRAPH-FA30 cIDEOGRAPH-FA31 cIDEOGRAPH-FA32 cIDEOGRAPH-FA33 cIDEOGRAPH-FA34 cIDEOGRAPH-FA35
  cIDEOGRAPH-FA36 cIDEOGRAPH-FA37 cIDEOGRAPH-FA38 cIDEOGRAPH-FA39 cIDEOGRAPH-FA3A cIDEOGRAPH-FA3B
  cIDEOGRAPH-FA3C cIDEOGRAPH-FA3D cIDEOGRAPH-FA3E cIDEOGRAPH-FA3F cIDEOGRAPH-FA40 cIDEOGRAPH-FA41
  cIDEOGRAPH-FA42 cIDEOGRAPH-FA43 cIDEOGRAPH-FA44 cIDEOGRAPH-FA45 cIDEOGRAPH-FA46 cIDEOGRAPH-FA47
  cIDEOGRAPH-FA48 cIDEOGRAPH-FA49 cIDEOGRAPH-FA4A cIDEOGRAPH-FA4B cIDEOGRAPH-FA4C cIDEOGRAPH-FA4D
  cIDEOGRAPH-FA4E cIDEOGRAPH-FA4F cIDEOGRAPH-FA50 cIDEOGRAPH-FA51 cIDEOGRAPH-FA52 cIDEOGRAPH-FA53
  cIDEOGRAPH-FA54 cIDEOGRAPH-FA55 cIDEOGRAPH-FA56 cIDEOGRAPH-FA57 cIDEOGRAPH-FA58 cIDEOGRAPH-FA59
  cIDEOGRAPH-FA5A cIDEOGRAPH-FA5B cIDEOGRAPH-FA5C cIDEOGRAPH-FA5D cIDEOGRAPH-FA5E cIDEOGRAPH-FA5F
  cIDEOGRAPH-FA60 cIDEOGRAPH-FA61 cIDEOGRAPH-FA62 cIDEOGRAPH-FA63 cIDEOGRAPH-FA64 cIDEOGRAPH-FA65
  cIDEOGRAPH-FA66 cIDEOGRAPH-FA67 cIDEOGRAPH-FA68 cIDEOGRAPH-FA69 cIDEOGRAPH-FA6A cIDEOGRAPH-FA6B
  cIDEOGRAPH-FA6C cIDEOGRAPH-FA6D cIDEOGRAPH-FA70 cIDEOGRAPH-FA71 cIDEOGRAPH-FA72 cIDEOGRAPH-FA73
  cIDEOGRAPH-FA74 cIDEOGRAPH-FA75 cIDEOGRAPH-FA76 cIDEOGRAPH-FA77 cIDEOGRAPH-FA78 cIDEOGRAPH-FA79
  cIDEOGRAPH-FA7A cIDEOGRAPH-FA7B cIDEOGRAPH-FA7C cIDEOGRAPH-FA7D cIDEOGRAPH-FA7E cIDEOGRAPH-FA7F
  cIDEOGRAPH-FA80 cIDEOGRAPH-FA81 cIDEOGRAPH-FA82 cIDEOGRAPH-FA83 cIDEOGRAPH-FA84 cIDEOGRAPH-FA85
  cIDEOGRAPH-FA86 cIDEOGRAPH-FA87 cIDEOGRAPH-FA88 cIDEOGRAPH-FA89 cIDEOGRAPH-FA8A cIDEOGRAPH-FA8B
  cIDEOGRAPH-FA8C cIDEOGRAPH-FA8D cIDEOGRAPH-FA8E cIDEOGRAPH-FA8F cIDEOGRAPH-FA90 cIDEOGRAPH-FA91
  cIDEOGRAPH-FA92 cIDEOGRAPH-FA93 cIDEOGRAPH-FA94 cIDEOGRAPH-FA95 cIDEOGRAPH-FA96 cIDEOGRAPH-FA97
  cIDEOGRAPH-FA98 cIDEOGRAPH-FA99 cIDEOGRAPH-FA9A cIDEOGRAPH-FA9B cIDEOGRAPH-FA9C cIDEOGRAPH-FA9D
  cIDEOGRAPH-FA9E cIDEOGRAPH-FA9F cIDEOGRAPH-FAA0 cIDEOGRAPH-FAA1 cIDEOGRAPH-FAA2 cIDEOGRAPH-FAA3
  cIDEOGRAPH-FAA4 cIDEOGRAPH-FAA5 cIDEOGRAPH-FAA6 cIDEOGRAPH-FAA7 cIDEOGRAPH-FAA8 cIDEOGRAPH-FAA9
  cIDEOGRAPH-FAAA cIDEOGRAPH-FAAB cIDEOGRAPH-FAAC cIDEOGRAPH-FAAD cIDEOGRAPH-FAAE cIDEOGRAPH-FAAF
  cIDEOGRAPH-FAB0 cIDEOGRAPH-FAB1 cIDEOGRAPH-FAB2 cIDEOGRAPH-FAB3 cIDEOGRAPH-FAB4 cIDEOGRAPH-FAB5
  cIDEOGRAPH-FAB6 cIDEOGRAPH-FAB7 cIDEOGRAPH-FAB8 cIDEOGRAPH-FAB9 cIDEOGRAPH-FABA cIDEOGRAPH-FABB
  cIDEOGRAPH-FABC cIDEOGRAPH-FABD cIDEOGRAPH-FABE cIDEOGRAPH-FABF cIDEOGRAPH-FAC0 cIDEOGRAPH-FAC1
  cIDEOGRAPH-FAC2 cIDEOGRAPH-FAC3 cIDEOGRAPH-FAC4 cIDEOGRAPH-FAC5 cIDEOGRAPH-FAC6 cIDEOGRAPH-FAC7
  cIDEOGRAPH-FAC8 cIDEOGRAPH-FAC9 cIDEOGRAPH-FACA cIDEOGRAPH-FACB cIDEOGRAPH-FACC cIDEOGRAPH-FACD
  cIDEOGRAPH-FACE cIDEOGRAPH-FACF cIDEOGRAPH-FAD0 cIDEOGRAPH-FAD1 cIDEOGRAPH-FAD2 cIDEOGRAPH-FAD3
  cIDEOGRAPH-FAD4 cIDEOGRAPH-FAD5 cIDEOGRAPH-FAD6 cIDEOGRAPH-FAD7 cIDEOGRAPH-FAD8 cIDEOGRAPH-FAD9
  bRADICAL BAMBOO cBLUE cBOLT OF CLOTH cBONE cBOX cBRUSH ONE dTWO cC-SIMPLIFIED BIRD dCART dDRAGON
  dEAT dEVEN dFISH dFLY dFROG dGATE dGOLD dHORSE dLEAF dLONG dSALT dSEE dSHELL dSILK dSPEECH
  dTANNED LEATHER dTOOTH dTURTLE dWIND cCHOKE cCITY cCIVILIAN cCLIFF cCLOTHES cCOW cDEATH
  cDIVINATION cDOG cEAT ONE dTHREE dTWO cEWE cEYE cFIRE cFOOT cGHOST cGRASS ONE dTHREE dTWO cHAND
  cHEAD cHEART ONE dTWO cHORN cJ-SIMPLIFIED DRAGON dEVEN dTOOTH dTURTLE cJADE cKNIFE ONE dTWO cLAME
  FOUR dONE dTHREE dTWO cLONG ONE dTWO cMEAT cMESH cMOON cMORTAR cMOTHER cMOUND ONE dTWO cNET FOUR
  dONE dTHREE dTWO cOLD cPAW ONE dTWO cPERSON cRAIN cRAM cRAP cREPEAT cSEAL cSECOND ONE dTHREE dTWO
  cSHEEP cSILK cSIMPLIFIED HALF TREE TRUNK dHORN dWALK dWHEAT dYELLOW cSMALL ONE dTWO cSNAKE cSNOUT
  ONE dTWO cSPIRIT ONE dTWO cSUN cTABLE cTHREAD cTIGER cTURTLE cWALK ONE dTWO cWATER ONE dTWO cWEST
  ONE dTWO bSTROKE BXG cD cH cHG cHP cHPWG cHXWG cHZ cHZG cHZT cHZW cHZWG cHZZ cHZZP cHZZZ cHZZZG
  cN cP cPD cPG cPZ cQ cS cSG cSP cST cSW cSWG cSWZ cSZ cSZWG cSZZ cT cTN cWG cXG aCLAMSHELL MOBILE
  PHONE aCLAPPER BOARD aCLAPPING HANDS SIGN aCLASSICAL BUILDING aCLEAR SCREEN SYMBOL aCLINKING BEER
  MUGS bGLASSES aCLIPBOARD aCLOCK FACE EIGHT OCLOCK cEIGHT-THIRTY cELEVEN OCLOCK cELEVEN-THIRTY
  cFIVE OCLOCK cFIVE-THIRTY cFOUR OCLOCK cFOUR-THIRTY cNINE OCLOCK cNINE-THIRTY cONE OCLOCK
  cONE-THIRTY cSEVEN OCLOCK cSEVEN-THIRTY cSIX OCLOCK cSIX-THIRTY cTEN OCLOCK cTEN-THIRTY cTHREE
  OCLOCK cTHREE-THIRTY cTWELVE OCLOCK cTWELVE-THIRTY cTWO OCLOCK cTWO-THIRTY aCLOCKWISE CLOSED
  CIRCLE ARROW bCONTOUR INTEGRAL bDOWNWARDS AND UPWARDS OPEN CIRCLE ARROWS bGAPPED CIRCLE ARROW
  bINTEGRAL bOPEN CIRCLE ARROW bRIGHT AND LEFT SEMICIRCLE ARROWS bRIGHTWARDS AND LEFTWARDS OPEN
  CIRCLE ARROWS hWITH CIRCLED ONE OVERLAY bTOP SEMICIRCLE ARROW bTRIANGLE-HEADED OPEN CIRCLE ARROW
  aCLOSE UP aCLOSED BOOK bINTERSECTION WITH SERIFS bLOCK WITH KEY bMAILBOX WITH LOWERED FLAG
  dRAISED FLAG bSUBSET cOR EQUAL TO bSUPERSET cOR EQUAL TO bUMBRELLA bUNION WITH SERIFS eAND SMASH
  PRODUCT aCLOUD bWITH LIGHTNING cRAIN cSNOW cTORNADO aCLOWN FACE aCOAT aCOCKROACH aCOCKTAIL GLASS
  aCOCONUT aCOFFIN aCOIN aCOLLISION SYMBOL aCOLON bEQUALS bSIGN aCOMBINING ACUTE ACCENT dBELOW
  cTONE MARK bACUTE-GRAVE-ACUTE bACUTE-MACRON bALMOST EQUAL TO ABOVE eBELOW bANNUITY SYMBOL
  bANTICLOCKWISE ARROW ABOVE cRING OVERLAY bASTERISK ABOVE cBELOW bBINDU BELOW bBREVE cBELOW
  bBREVE-MACRON bBRIDGE ABOVE cBELOW bCANDRABINDU bCARON cBELOW bCEDILLA bCIRCUMFLEX ACCENT dBELOW
  bCLOCKWISE ARROW ABOVE cRING OVERLAY bCOMMA ABOVE dRIGHT cBELOW bCONJOINING MACRON dBELOW
  bCYRILLIC DASIA PNEUMATA cHUNDRED MILLIONS SIGN dTHOUSANDS SIGN cKAVYKA cLETTER A dBE dBIG YUS
  dCHE dDE dDJERV dEF dEL dEM dEN dER dES dES-TE dFITA dGHE dHA dHARD SIGN dI dIE dIOTIFIED A eBIG
  YUS eE dKA dLITTLE YUS dMONOGRAPH UK dO dOMEGA dPE dSHA dSHCHA dSOFT SIGN dTE dTSE dU dUKRAINIAN
  IE dVE dYAT dYERU dYI dYU dZE dZHE cMILLIONS SIGN cPALATALIZATION cPAYEROK cPOKRYTIE cPSILI
  PNEUMATA cTEN MILLIONS SIGN cTHOUSAND MILLIONS SIGN cTITLO dLEFT HALF dRIGHT HALF cVZMET
  bDELETION MARK bDEVANAGARI DIGIT EIGHT dFIVE dFOUR dNINE dONE dSEVEN dSIX dTHREE dTWO dZERO
  cLETTER A dKA dNA dPA dRA dU dVI cSIGN AVAGRAHA bDIAERESIS cBELOW bDIAERESIS-RING bDOT ABOVE
  dLEFT dRIGHT cBELOW dLEFT bDOTTED ACUTE ACCENT cGRAVE ACCENT bDOUBLE ACUTE ACCENT cBREVE dBELOW
  cCIRCUMFLEX ABOVE cGRAVE ACCENT cINVERTED BREVE eBELOW cLOW LINE cMACRON dBELOW cOPEN MARK BELOW
  cOVERLINE cPARENTHESES ABOVE cPLUS SIGN ABOVE eBELOW cRIGHTWARDS ARROW BELOW cRING BELOW cTILDE
  dLEFT HALF dRIGHT HALF cVERTICAL LINE ABOVE eBELOW dSTROKE OVERLAY bDOUBLED CIRCUMFLEX ACCENT
  bDOWN TACK BELOW bDOWNWARDS ARROW bENCLOSING CIRCLE dBACKSLASH cDIAMOND cKEYCAP cSCREEN cSQUARE
  cUPWARD POINTING TRIANGLE bEQUALS SIGN BELOW bFERMATA bFOUR DOTS ABOVE bGLAGOLITIC LETTER AZU
  dBIG YUS dBUKY dCHRIVI dDJERVI dDOBRO dFITA dFRITU dGLAGOLI dHERU dI dINITIAL IZHE dIOTATED BIG
  YUS eSMALL YUS dIZHE dKAKO dLJUDIJE dMYSLITE dNASHI dONU dPOKOJI dRITSI dSHA dSHTA dSLOVO dSMALL
  YUS dTSI dTVRIDO dUKU dVEDE dYATI dYERI dYERU dYESTU dYO dYU dZEMLJA dZHIVETE bGRANTHA DIGIT FIVE
  dFOUR dONE dSIX dTHREE dTWO dZERO cLETTER A dKA dNA dPA dVI bGRAPHEME JOINER bGRAVE ACCENT dBELOW
  cTONE MARK bGRAVE-ACUTE-GRAVE bGRAVE-MACRON bGREEK DIALYTIKA TONOS cKORONIS cMUSICAL PENTASEME
  dTETRASEME dTRISEME cPERISPOMENI cYPOGEGRAMMENI bHOMOTHETIC ABOVE bHOOK ABOVE bHORN bINFINITY
  bINVERTED BREVE dBELOW cBRIDGE BELOW cDOUBLE ARCH ABOVE eBELOW bIS BELOW bKATAKANA-HIRAGANA
  SEMI-VOICED SOUND MARK cVOICED SOUND MARK bKAVYKA ABOVE LEFT dRIGHT bLATIN LETTER SMALL CAPITAL G
  fL fM fN fR cSMALL LETTER A fWITH DIAERESIS eAE eALPHA eAO eAV eB eBETA eC fCEDILLA eD eE eESH
  eETH eF eFLATTENED OPEN A ABOVE eG eH eI eINSULAR D fG fR fT eK eL fWITH DOUBLE MIDDLE TILDE
  eLONG S eM eN eO fWITH DIAERESIS gLIGHT CENTRALIZATION STROKE eP eR fBELOW fROTUNDA eS eSCHWA eT
  eTURNED W BELOW eU fWITH DIAERESIS gLIGHT CENTRALIZATION STROKE eV eW fBELOW eX eZ bLEFT ANGLE
  ABOVE dBELOW cARROW ABOVE dBELOW cARROWHEAD ABOVE dBELOW cHALF RING ABOVE eBELOW cHARPOON ABOVE
  cPARENTHESIS ABOVE LEFT dBELOW LEFT cRIGHT ARROW ABOVE eBELOW cTACK BELOW bLEFTWARDS ARROW
  OVERLAY cHARPOON WITH BARB DOWNWARDS bLIGATURE LEFT HALF eBELOW cRIGHT HALF eBELOW bLIGHT
  CENTRALIZATION STROKE BELOW bLONG DOUBLE SOLIDUS OVERLAY cSOLIDUS OVERLAY cSTROKE OVERLAY
  cVERTICAL LINE OVERLAY bLOW LINE bMACRON cBELOW cLEFT HALF eBELOW cRIGHT HALF eBELOW
  bMACRON-ACUTE bMACRON-BREVE bMACRON-GRAVE bMINUS SIGN BELOW bNOT TILDE ABOVE bNUMBER SIGN ABOVE
  bOGONEK cABOVE bOLD PERMIC LETTER AN eDOI eNENOE eSII eZATA bOPEN MARK BELOW bOVERLINE
  bPALATALIZED HOOK BELOW bPARENTHESES ABOVE cBELOW cOVERLAY bPLUS SIGN ABOVE dBELOW bRETROFLEX
  HOOK BELOW bREVERSE SOLIDUS OVERLAY bREVERSED COMMA ABOVE bRIGHT ARROW ABOVE dBELOW cARROWHEAD
  ABOVE dAND DOWN ARROWHEAD BELOW eUP ARROWHEAD BELOW dBELOW cHALF RING ABOVE eBELOW cHARPOON ABOVE
  cPARENTHESIS ABOVE RIGHT dBELOW RIGHT cTACK BELOW bRIGHTWARDS HARPOON WITH BARB DOWNWARDS bRING
  ABOVE cBELOW cOVERLAY bSEAGULL BELOW bSHORT SOLIDUS OVERLAY cSTROKE OVERLAY cVERTICAL LINE
  OVERLAY bSNAKE BELOW bSQUARE BELOW cBRACKETS ABOVE bSTRONG CENTRALIZATION STROKE BELOW
  bSUSPENSION MARK bTHREE DOTS ABOVE bTILDE cBELOW cLEFT HALF BELOW cOVERLAY cRIGHT HALF BELOW
  bTRIPLE ACUTE ACCENT cDOT cUNDERDOT bTURNED COMMA ABOVE bUP TACK ABOVE dBELOW bUPWARDS ARROW
  BELOW bUR ABOVE bUS ABOVE bVERTICAL LINE ABOVE dBELOW cTILDE bWIDE BRIDGE ABOVE cINVERTED BRIDGE
  BELOW bWIGGLY LINE BELOW bX ABOVE cBELOW bX-X BELOW bZIGZAG ABOVE cBELOW aCOMET aCOMMA
  aCOMMERCIAL AT bMINUS SIGN aCOMPASS aCOMPLEMENT aCOMPOSITION SYMBOL aCOMPRESSION aCONFETTI BALL
  aCONFOUNDED FACE aCONFUSED FACE aCONGRUENT WITH DOT ABOVE aCONICAL TAPER aCONJUNCTION
  aCONSTRUCTION SIGN bWORKER aCONTAINS AS MEMBER cNORMAL SUBGROUP eOR EQUAL TO bWITH LONG
  HORIZONTAL STROKE cOVERBAR cVERTICAL BAR AT END OF HORIZONTAL STROKE aCONTINUOUS UNDERLINE SYMBOL
  aCONTOUR INTEGRAL aCONTROL KNOBS bSEQUENCE INTRODUCER aCONVENIENCE STORE aCOOKED RICE aCOOKIE
  aCOOKING aCOPTIC CAPITAL LETTER AKHMIMIC KHEI dALFA dBOHAIRIC KHEI dCROSSED SHEI dCRYPTOGRAMMIC
  EIE eGANGIA eNI eSHEI dDALDA dDEI dDIALECT-P ALEF eHORI eKAPA eNI dEIE dFEI dFI dGAMMA dGANGIA
  dHATE dHORI dIAUDA dKAPA dKHEI dKHI dKSI dL-SHAPED HA dLAULA dMI dNI dO dOLD COPTIC AIN fDJA fESH
  fGANGIA fHA fHAT fHEI fHORI fOOU fSHEI fSHIMA eNUBIAN NGI fNYI fSHIMA fWAU dOOU dPI dPSI dRO
  dSAMPI dSHEI dSHIMA dSIMA dSOU dTAU dTHETHE dUA dVIDA dZATA bCOMBINING NI ABOVE cSPIRITUS ASPER
  dLENIS bEPACT DIGIT EIGHT dFIVE dFOUR dNINE dONE dSEVEN dSIX dTHREE dTWO cNUMBER EIGHT HUNDRED
  dEIGHTY dFIFTY dFIVE HUNDRED dFORTY dFOUR HUNDRED dNINE HUNDRED dNINETY dONE HUNDRED dSEVEN
  HUNDRED dSEVENTY dSIX HUNDRED dSIXTY dTEN dTHIRTY dTHREE HUNDRED dTWENTY dTWO HUNDRED cTHOUSANDS
  MARK bFRACTION ONE HALF bFULL STOP bMORPHOLOGICAL DIVIDER bOLD NUBIAN DIRECT QUESTION MARK dFULL
  STOP dINDIRECT QUESTION MARK dVERSE DIVIDER bSMALL LETTER AKHMIMIC KHEI dALFA dBOHAIRIC KHEI
  dCROSSED SHEI dCRYPTOGRAMMIC EIE eGANGIA eNI eSHEI dDALDA dDEI dDIALECT-P ALEF eHORI eKAPA eNI
  dEIE dFEI dFI dGAMMA dGANGIA dHATE dHORI dIAUDA dKAPA dKHEI dKHI dKSI dL-SHAPED HA dLAULA dMI dNI
  dO dOLD COPTIC AIN fDJA fESH fGANGIA fHA fHAT fHEI fHORI fOOU fSHEI fSHIMA eNUBIAN NGI fNYI
  fSHIMA fWAU dOOU dPI dPSI dRO dSAMPI dSHEI dSHIMA dSIMA dSOU dTAU dTHETHE dUA dVIDA dZATA bSYMBOL
  KAI cKHI RO cMI RO cPI RO cSHIMA SIMA cSTAUROS cTAU RO aCOPYLEFT SYMBOL aCOPYRIGHT SIGN aCORAL
  aCORNISH VERSE DIVIDER aCORRESPONDS TO aCOUCH AND LAMP aCOUNTERBORE aCOUNTERSINK aCOUNTING ROD
  TENS DIGIT EIGHT eFIVE eFOUR eNINE eONE eSEVEN eSIX eTHREE eTWO cUNIT DIGIT EIGHT eFIVE eFOUR
  eNINE eONE eSEVEN eSIX eTHREE eTWO aCOUPLE WITH HEART aCOW bFACE aCR aCRAB aCREDIT CARD aCRESCENT
  MOON aCRICKET bBAT AND BALL aCROCODILE aCROISSANT aCROSS MARK bOF JERUSALEM cLORRAINE bPATTY WITH
  LEFT CROSSBAR dRIGHT CROSSBAR bPOMMEE cWITH HALF-CIRCLE BELOW aCROSSED FLAGS bNEGATIVE SQUARED
  LATIN CAPITAL LETTER P bSWORDS aCROSSING LANES aCROWN aCRUTCH aCRUZEIRO SIGN aCRYING CAT FACE
  bFACE aCRYSTAL BALL aCSI aCUBE ROOT aCUCUMBER aCUNEIFORM NUMERIC SIGN EIGHT ASH eDISH eGESH2
  eSHAR2 eU fVARIANT FORM eVARIANT FORM USSU gUSSU3 dELAMITE FIFTY eFORTY eONE THIRD eTWO THIRDS
  dFIVE ASH fTENU eBAN2 fVARIANT FORM eBURU eDISH eGESH2 eGESHU eSHAR2 eSHARU eSIXTHS DISH eU
  fVARIANT FORM dFOUR ASH fTENU eBAN2 fVARIANT FORM eBURU eDISH eGESH2 eGESHU eSHAR2 eSHARU eU
  fVARIANT FORM eVARIANT FORM LIMMU hA hB gLIMMU4 dNIGIDAESH dNIGIDAMIN dNINE ASH eDISH eGESH2
  eSHAR2 eU fVARIANT FORM eVARIANT FORM ILIMMU hA gILIMMU3 gILIMMU4 dOLD ASSYRIAN ONE QUARTER
  gSIXTH dONE BAN2 eBURU eEIGHTH ASH eESHE3 eGESH2 eGESHU eHALF GUR eQUARTER ASH fGUR eSHARU eTHIRD
  DISH fVARIANT FORM A dSEVEN ASH eDISH eGESH2 eSHAR2 eU fVARIANT FORM eVARIANT FORM IMIN A hB
  gIMIN3 dSHAR2 TIMES GAL PLUS DISH hMIN dSIX ASH fTENU eDISH eGESH2 eSHAR2 eU fVARIANT FORM
  eVARIANT FORM ASH9 dTHREE ASH fTENU eBAN2 eBURU fVARIANT FORM eDISH eGESH2 eGESHU eSHAR2 fVARIANT
  FORM eSHARU fVARIANT FORM eVARIANT FORM ESH16 gESH21 dTWO ASH fTENU eBAN2 eBURU eESHE3 eGESH2
  eGESHU eSHAR2 eSHARU eTHIRDS DISH fVARIANT FORM A bPUNCTUATION SIGN DIAGONAL COLON eQUADCOLON
  eTRICOLON dOLD ASSYRIAN WORD DIVIDER dVERTICAL COLON bSIGN A dTIMES A eBAD eGAN2 TENU eHA eIGI
  eLAGAR GUNU eMUSH eSAG cA2 cAB dGUNU dTIMES ASH2 eDUN3 GUNU eGAL eGAN2 TENU eHA eIGI GUNU eIMIN
  eLAGAB eNUN fTENU eSHESH eSHU2 eU PLUS U PLUS U cAB2 dTIMES A eBALAG eGAN2 TENU eME PLUS EN eSHA3
  eTAK4 cAD dTIMES ESH2 cAK dTIMES ERIN2 eSHITA PLUS GISH cAL dTIMES AL eDIM2 eGISH eHA eKAD3 eKI
  eSHE eUSH cALAN cALEPH cAMAR dTIMES KUG eSHE cAN dOVER AN dPLUS NAGA OPPOSING AN PLUS NAGA
  fSQUARED dTHREE TIMES cANSHE cAPIN cARAD dTIMES KUR cARKAB cASAL2 cASH dKABA TENU dOVER ASH OVER
  ASH hCROSSING ASH OVER ASH OVER ASH fTUG2 OVER TUG2 TUG2 OVER TUG2 PAP dZIDA TENU cASH2 cASHGAB
  cBA cBAD dTIMES DISH TENU cBAG3 cBAHAR2 dTIMES AB2 eNI eZA cBAL dOVER BAL cBALAG cBAR cBARA2 cBI
  dTIMES A eGAR eIGI GUNU cBU dCROSSING BU dOVER BU AB fTIMES NA2 fUN cBULUG dOVER BULUG cBUR cBUR2
  cDA dTIMES TAK4 cDAG dKISIM5 TIMES A PLUS MASH fAMAR fBALAG fBI fGA gPLUS MASH fGI fGIR2 fGUD fHA
  fIR gPLUS LU fKAK fLA fLU gPLUS MASH2 fLUM fNE fPAP PLUS PAP fSI fTAK4 fU2 PLUS GIR2 hMASH fUSH
  dTIMES KUR cDAG3 cDAM cDAR cDARA3 cDARA4 cDI cDIB cDIM dTIMES IGI eSHE eU U U cDIM2 dTIMES UD
  cDIN dKASKAL U GUNU DISH cDISH dPLUS SHU cDU dGUNU dOVER DU dSHESHIG cDUB dTIMES ESH2 eSHE cDUB2
  cDUG dTIMES ANSHE eASH fAT LEFT eDIN eDUN eERIN2 eGA eGI eGIR2 GUNU eGISH eHA eHI eIGI GUNU
  eKASKAL eKUR eKUSHU2 fPLUS KASKAL eLAK-020 eLAM fTIMES KUR eLUH PLUS GISH eMASH eMES eMI eNI ePI
  eSHE eSI GUNU cDUGUD cDUH cDUN cDUN3 dGUNU eGUNU cDUN4 cDUR2 cE dOVER E NUN OVER NUN dTIMES PAP
  cE2 dTIMES A PLUS HA PLUS DA eGAR eKUR eMI ePAP eSAL eSHE eU cEDIN cEGIR cEL cEN dCROSSING EN
  dOPPOSING EN dSQUARED dTIMES GAN2 fTENU eME cEREN cERIN2 dX cESH2 dCROSSING ESH2 cEZEN dSHESHIG
  TIMES ASH fHI fIGI GUNU fLA fLAL fME fMES fSU dTIMES A fPLUS LAL hTIMES LAL eAN eBAD eDUN3 GUNU
  gGUNU eGUD eHA fGUNU eIGI GUNU eKASKAL fSQUARED eKU3 eLA eLAL TIMES LAL eLI eLU eSHE eSU eU2 eUD
  cGA dGUNU cGA2 dOVER GA2 dTIMES A PLUS DA PLUS HA gHA gIGI eAB2 TENU PLUS TAB eAN fPLUS KAK PLUS
  A eASH eASH2 fPLUS GAL eBAD eBAHAR2 eBAR PLUS RA eBUR fPLUS RA eDA eDI eDIM GUNU fTIMES SHE eDUB
  eDUG TIMES IGI GUNU gKASKAL eEL fPLUS LA eEN fTIMES GAN2 TENU eEREN eGA eGAN2 TENU eGAR fPLUS DI
  gNE eGI eGI4 fPLUS A eGIR2 PLUS SU eHA PLUS A gLU PLUS ESH2 eHAL fPLUS LA eHI PLUS LI eHUB2 eIGI
  GUNU eISH PLUS HU PLUS ASH eKAK eKASKAL eKID fPLUS LAL eKU3 PLUS AN eKUSHU2 PLUS KASKAL eLA eLAM
  fTIMES KUR eLUH eME PLUS EN eMI eMUSH eNE fPLUS E2 gGI eNUN fOVER NUN ePA eSAL eSAR eSHE fPLUS
  TUR eSHID eSHIM eSUM eTAK4 eU eUD fPLUS DU eZIZ2 cGABA dCROSSING GABA dROTATED NINETY DEGREES
  cGAD dOVER GAD GAR OVER GAR cGAL dGAD OVER GAD GAR OVER GAR cGALAM cGAM cGAN cGAN2 dCROSSING GAN2
  dOVER GAN2 dTENU cGAR cGAR3 cGASHAN cGE22 cGESHTIN dTIMES KUR eU cGI dCROSSING GI dTIMES E eU
  cGI4 dCROSSING GI4 dOVER GI4 cGIDIM cGIG cGIR2 dGUNU cGIR3 dTIMES A PLUS IGI eGAN2 TENU eIGI eLU
  PLUS IGI ePA cGISAL cGISH dCROSSING GISH dTENU dTIMES BAD eGISH CROSSING GISH eTAK4 cGU dCROSSING
  GU cGU2 dGUNU dTIMES IGI GUNU eKAK fTIMES IGI GUNU eNUN eSAL PLUS TUG2 cGUD dOVER GUD LUGAL dPLUS
  GISH TIMES TAK4 dTIMES A PLUS KUR eKUR cGUL cGUM dTIMES SHE cGUR cGUR7 cGURUN cGURUSH cHA dGUNU
  dTENU eGUNU cHAL cHI dTIMES ASH fOVER HI TIMES ASH eASH2 eBAD eDISH eGAD eKIN eNUN eSHE eU cHU
  cHUB2 dTIMES AN eHAL eKASKAL eLISH eUD cHUL2 cHUSH cI dA cIB cIDIM dOVER IDIM BUR fSQUARED cIG
  cIGI dDIB dGUNU dOVER IGI SHIR OVER SHIR UD OVER UD dRI cIL dTIMES GAN2 TENU cIL2 cIM dCROSSING
  IM dOPPOSING IM dSQUARED dTIMES TAK4 cIMIN cIN cIR cISH cKA dTIMES A eAD fPLUS KU3 eANSHE eASH2
  eASH3 eBAD eBALAG eBAR eBI eBU eERIN2 eESH2 eGA eGAL eGAN2 TENU eGAR fPLUS SHA3 PLUS A eGI eGIR2
  eGISH fCROSSING GISH fPLUS SAR eGU eGUD eGUR7 eHI TIMES ASH2 eIGI eIM eKA eKAK eKI eKID eLI eLU
  eLUM eME fPLUS DU gGI gTE eMI fPLUS NUNUZ eNE eNUN ePA ePI eRU eSA eSAR eSHA eSHE eSHID eSHU
  eSHUL eSIG eSUHUR eTAR eTU eU fU U eU2 eUD eUMUM TIMES PA eUR eUR2 eUSH eZI cKA2 dCROSSING KA2
  cKAB cKAD2 cKAD3 cKAD4 cKAD5 dOVER KAD5 cKAK dTIMES IGI GUNU cKAL dCROSSING KAL dTIMES BAD cKAM2
  cKAM4 cKAP ELAMITE cKASKAL dLAGAB TIMES U OVER LAGAB TIMES U dOVER KASKAL LAGAB TIMES U OVER
  LAGAB TIMES U cKESH2 cKI dTIMES BAD eU eUD cKID cKIN cKISAL cKISH cKISIM5 dOVER KISIM5 cKU dOVER
  HI TIMES ASH2 KU OVER HI TIMES ASH2 cKU3 cKU4 dVARIANT FORM cKU7 cKUL dGUNU cKUN cKUR dOPPOSING
  KUR cKUSHU2 cKWU318 cLA cLAGAB dSQUARED dTIMES A fPLUS DA PLUS HA gGAR gLAL eAL eAN eASH ZIDA
  TENU eBAD eBI eDAR eEN eGA eGAR eGI eGUD fPLUS GUD eHA eHAL eHI TIMES NUN eIGI GUNU eIM fPLUS HA
  gLU eKI eKIN eKU3 eKUL fPLUS HI PLUS A eLAGAB eLISH eLU eLUL eME fPLUS EN eMUSH eNE eSHE PLUS SUM
  eSHITA PLUS GISH PLUS ERIN2 hTENU eSHU2 fPLUS SHU2 eSUM eTAG eTAK4 eTE PLUS A PLUS SU PLUS NA eU
  fPLUS A gU PLUS U eU2 PLUS ASH eUD eUSH eZU OVER ZU cLAGAR dGUNU eOVER LAGAR GUNU SHE dTIMES SHE
  fPLUS SUM cLAHSHU cLAK-003 cLAK-021 cLAK-025 cLAK-030 cLAK-050 cLAK-051 cLAK-062 cLAK-079 OVER
  LAK-079 GUNU cLAK-080 cLAK-081 OVER LAK-081 cLAK-092 cLAK-130 cLAK-142 cLAK-210 cLAK-219 cLAK-220
  cLAK-225 cLAK-228 cLAK-238 cLAK-265 cLAK-266 cLAK-343 cLAK-347 cLAK-348 cLAK-383 cLAK-384
  cLAK-390 cLAK-441 cLAK-449 dTIMES GU eIGI ePAP PLUS LU3 gPAP PLUS LU3 eU2 PLUS BA cLAK-450
  cLAK-457 cLAK-470 cLAK-483 cLAK-490 cLAK-492 cLAK-493 cLAK-495 cLAK-550 cLAK-608 cLAK-617 dTIMES
  ASH eBAD eDUN3 GUNU GUNU eKU3 eLA eTAR eTE eU2 eUD eURUDA cLAK-636 cLAK-648 dTIMES DUB eGA eIGI
  fGUNU eNI ePAP PLUS PAP PLUS LU3 eSHESH PLUS KI eUD eURUDA cLAK-724 cLAK-749 cLAL dTIMES LAL cLAM
  dTIMES KUR fPLUS RU cLI cLIL cLIMMU2 cLISH cLU dTIMES BAD cLU2 dCROSSING LU2 dGUNU TIMES ASH
  dOPPOSING LU2 dSHESHIG eTIMES BAD dSQUARED dTENU dTIMES AL eBAD eDISH eESH2 fPLUS LAL fTENU eGAN2
  TENU eHAL eHI TIMES BAD eIM eKAD2 eKAD3 fPLUS ASH eKI eLA PLUS ASH eLAGAB eME PLUS EN eNE eNU
  ePAP fPLUS PAP PLUS LU3 eSHU eSI PLUS ASH eSIK2 PLUS BU eTAK4 eTUG2 cLU3 cLUGAL dOPPOSING LUGAL
  dOVER LUGAL dSHESHIG cLUH cLUL cLUM dOVER LUM fGAR OVER GAR cMA dGUNU dTIMES TAK4 cMA2 cMAH cMAR
  cMASH cMASH2 cME cMES cMESH cMI dPLUS ZA7 cMIN cMU dOVER MU cMUG dGUNU cMUNSUB cMURGU2 cMUSH
  dCROSSING MUSH dOVER MUSH fTIMES A PLUS NA gGA gKAK dTIMES A eKUR eZA cMUSH3 dGUNU dTIMES A fPLUS
  DI eDI eZA cNA cNA2 cNA4 cNAGA dINVERTED dOPPOSING NAGA dTIMES SHU TENU cNAGAR cNAM dNUTILLU
  cNAM2 cNE dSHESHIG dTIMES A eUD cNI dTIMES E cNI2 cNIM dTIMES GAN2 TENU eGAR PLUS GAN2 TENU cNIN
  cNIN9 cNINDA2 dTIMES AN eASH fPLUS ASH eBAL eDIM GUNU eGI eGISH eGUD eGUL eHI eKESH2 eLAK-050
  eMASH eME PLUS GAN2 TENU eNE eNUN ePAP PLUS PAP eSHE fPLUS A AN gASH hPLUS ASH eU fPLUS U eU2
  PLUS ASH eURUDA eUSH cNISAG cNU cNU11 dOVER NU11 BUR OVER BUR dROTATED NINETY DEGREES dTENU cNUN
  dCROSSING NUN fLAGAR OVER LAGAR dLAGAR TIMES GAR fMASH fSAL gOVER NUN LAGAR TIMES SAL fUSH dOVER
  NUN dTENU cNUNUZ dAB2 TIMES ASHGAB fBI fDUG fGUD fIGI GUNU fKAD3 fLA fNE fSILA3 fU2 dKISIM5 TIMES
  BI gU cPA cPAD cPAN cPAP cPESH2 dASTERISK cPI dCROSSING PI dTIMES A eAB eBI eBU eE eI eIB eU eU2
  cPIR2 cPIRIG dOPPOSING PIRIG dTIMES KAL eUD eZA cRA cRAB cRI cRU cSA cSAG dGUNU eTIMES HA
  dNUTILLU dOVER SAG dTIMES A eDU eDUB eEN eHA eIGI GUNU eKAK eKUR eLUM eMI eNUN eSAL eSHE AT LEFT
  eSHID eTAB eTAK4 eU2 eUB eUM eUR eUSH cSAL dLAGAB TIMES ASH2 cSANGA2 cSAR cSHA cSHA3 dTIMES A
  eBAD eGISH eNE eSHU2 eTUR eU fPLUS A cSHA6 dTENU cSHAB6 cSHAR2 cSHE dHU dOVER SHE fGAD OVER GAD
  GAR OVER GAR fTAB OVER TAB GAR OVER GAR dPLUS HUB2 eNAM2 eSAR cSHEG9 cSHEN cSHESH cSHESH2
  cSHESHLAM cSHID dTIMES A eIM cSHIM dTIMES A eBAL eBULUG eDIN eGAR eIGI fGUNU eKUSHU2 eLUL eMUG
  eSAL cSHINIG cSHIR dOVER SHIR BUR OVER BUR dTENU cSHITA cSHU dOVER INVERTED SHU cSHU2 dPLUS DUG
  TIMES NI eE2 TIMES AN cSHUBUR cSI dGUNU dTIMES TAK4 cSIG cSIG4 dOVER SIG4 SHU2 cSIK2 cSILA3 cSU
  dOVER SU cSUD cSUD2 cSUHUR cSUM cSUMASH cSUR cSUR9 cTA dASTERISK dGUNU dTIMES HI eMI cTAB dOVER
  TAB NI OVER NI DISH OVER DISH dSQUARED cTAG dTIMES BI eGUD eSHE eSHU eTUG2 eUD cTAK4 dPLUS SAG
  cTAR cTE dGUNU cTI dTENU cTI2 cTIL cTIR dOVER TIR fGAD OVER GAD GAR OVER GAR dTIMES TAK4 cTU
  cTUG2 cTUK cTUM dTIMES GAN2 TENU eTHREE DISH cTUR dOVER TUR ZA OVER ZA cU dGUD dOVER U PA OVER PA
  GAR OVER GAR fSUR OVER SUR fU REVERSED OVER U REVERSED dU eU cU2 cUB cUD dGUNU dKUSHU2 dSHESHIG
  eTIMES BAD dTIMES BAD eMI eU PLUS U PLUS U jGUNU cUDUG cUM dTIMES LAGAB eME fPLUS DA eSHA3 eU
  cUMBIN cUMUM dTIMES KASKAL ePA cUN dGUNU cUR dCROSSING UR dSHESHIG cUR2 dINVERTED dTIMES A PLUS
  HA gNA eAL eHA eNUN eU2 fPLUS ASH gBI eUD cUR4 cURI cURI3 cURU dTIMES A eASHGAB eBAR eDARA3 eDUN
  eGA eGAL eGAN2 TENU eGAR eGU eHA eIGI eIM eISH eKI eLAK-668 eLU3 eLUM eMIN ePA eSHE eSIG4 eTU eU
  PLUS GUD eUD eURUDA cURUDA dTIMES U cUSH dTIMES A eKU eKUR eTAK4 cUSH2 cUSHUMX cUSHX cUTUKI cUZ3
  dTIMES KASKAL cUZU cZA dSQUARED TIMES KUR dTENU cZA7 cZAG cZAMX cZE2 cZI dOVER ZI cZI3 cZIB dKABA
  TENU cZIG cZIZ2 cZU dOVER ZU PLUS SAR cZU5 dTIMES A eTHREE DISH TENU cZUBUR cZUM aCUP ON BLACK
  SQUARE bWITH STRAW aCUPCAKE aCUPIDO aCURLING STONE aCURLY BRACKET EXTENSION bLOGICAL AND cOR
  bLOOP aCURRENCY EXCHANGE bSIGN aCURRY AND RICE aCURVED STEM PARAGRAPH SIGN ORNAMENT aCUSTARD
  aCUSTOMS aCUT OF MEAT aCYCLONE aCYLINDRICITY aCYPRIOT SYLLABLE A cE cI cJA cJO cKA cKE cKI cKO
  cKU cLA cLE cLI cLO cLU cMA cME cMI cMO cMU cNA cNE cNI cNO cNU cO cPA cPE cPI cPO cPU cRA cRE
  cRI cRO cRU cSA cSE cSI cSO cSU cTA cTE cTI cTO cTU cU cWA cWE cWI cWO cXA cXE cZA cZO
  aCYPRO-MINOAN SIGN CM001 cCM002 cCM004 cCM005 cCM006 cCM007 cCM008 cCM009 cCM010 cCM011 cCM012
  cCM012B cCM013 cCM015 cCM017 cCM019 cCM021 cCM023 cCM024 cCM025 cCM026 cCM027 cCM028 cCM029
  cCM030 cCM033 cCM034 cCM035 cCM036 cCM037 cCM038 cCM039 cCM040 cCM041 cCM044 cCM046 cCM047 cCM049
  cCM050 cCM051 cCM052 cCM053 cCM054 cCM055 cCM056 cCM058 cCM059 cCM060 cCM061 cCM062 cCM063 cCM064
  cCM066 cCM067 cCM068 cCM069 cCM070 cCM071 cCM072 cCM073 cCM074 cCM075 cCM075B cCM076 cCM078
  cCM079 cCM080 cCM081 cCM082 cCM083 cCM084 cCM085 cCM086 cCM087 cCM088 cCM089 cCM090 cCM091 cCM092
  cCM094 cCM095 cCM096 cCM097 cCM098 cCM099 cCM100 cCM101 cCM102 cCM103 cCM104 cCM105 cCM107 cCM108
  cCM109 cCM110 cCM112 cCM114 cCM301 cCM302 aCYRILLIC CAPITAL LETTER A eWITH BREVE fDIAERESIS
  dABKHASIAN CHE fWITH DESCENDER eDZE eHA dALEUT KA dBARRED O fWITH DIAERESIS dBASHKIR KA dBE dBIG
  YUS dBINOCULAR O dBLENDED YUS dBROAD OMEGA dBYELORUSSIAN-UKRAINIAN I dCCHE dCHE eWITH DESCENDER
  fDIAERESIS fVERTICAL STROKE dCLOSED LITTLE YUS dCROSSED O dDCHE dDE dDJE dDJERV dDOUBLE MONOCULAR
  O eO dDWE dDZE dDZELO dDZHE dDZWE dDZZE dDZZHE dE eWITH DIAERESIS dEF dEL eWITH DESCENDER fHOOK
  fMIDDLE HOOK fTAIL dEM eWITH TAIL dEN eWITH DESCENDER fHOOK fLEFT HOOK fMIDDLE HOOK fTAIL dER
  eWITH TICK dES eWITH DESCENDER dFITA dGHE eWITH DESCENDER fMIDDLE HOOK fSTROKE gAND HOOK fUPTURN
  dGJE dHA eWITH DESCENDER fHOOK fSTROKE dHARD SIGN dHWE dI eWITH DIAERESIS fGRAVE fMACRON dIE
  eWITH BREVE fGRAVE dIO dIOTA dIOTIFIED A eBIG YUS eCLOSED LITTLE YUS eE eLITTLE YUS eYAT dIZHITSA
  eWITH DOUBLE GRAVE ACCENT dJE dKA eWITH DESCENDER fHOOK fSTROKE fVERTICAL STROKE dKHAKASSIAN CHE
  dKJE dKOMI DE eDJE eDZJE eLJE eNJE eSJE eTJE eZJE dKOPPA dKSI dLHA dLITTLE YUS dLJE dMONOCULAR O
  dMONOGRAPH UK dNEUTRAL YER dNJE dO eWITH DIAERESIS dOMEGA eWITH TITLO dOT dPE eWITH DESCENDER
  fMIDDLE HOOK dPSI dQA dREVERSED DZE eTSE eYU eZE dRHA dROUND OMEGA dSCHWA eWITH DIAERESIS
  dSEMISOFT SIGN dSHA dSHCHA dSHHA eWITH DESCENDER dSHORT I fWITH TAIL eU dSHWE dSOFT DE eEL eEM
  eSIGN dSTRAIGHT U fWITH STROKE dTCHE dTE eWITH DESCENDER fMIDDLE HOOK dTSE dTSHE dTSSE dTSWE dTWE
  dU eWITH DIAERESIS fDOUBLE ACUTE fMACRON dUK dUKRAINIAN IE dVE dWE dYA dYAE dYAT dYERU eWITH BACK
  YER fDIAERESIS dYI dYN dYU dZE eWITH DESCENDER fDIAERESIS dZEMLYA dZHE eWITH BREVE fDESCENDER
  fDIAERESIS dZHWE cLIGATURE A IE dEN GHE dTE TSE bKAVYKA bLETTER MULTIOCULAR O cPALOCHKA cSMALL
  CAPITAL EL bPAYEROK bSMALL LETTER A eWITH BREVE fDIAERESIS dABKHASIAN CHE fWITH DESCENDER eDZE
  eHA dALEUT KA dBARRED O fWITH DIAERESIS dBASHKIR KA dBE dBIG YUS dBINOCULAR O dBLENDED YUS dBROAD
  OMEGA dBYELORUSSIAN-UKRAINIAN I dCCHE dCHE eWITH DESCENDER fDIAERESIS fVERTICAL STROKE dCLOSED
  LITTLE YUS dCROSSED O dDCHE dDE dDJE dDJERV dDOUBLE MONOCULAR O eO dDWE dDZE dDZELO dDZHE dDZWE
  dDZZE dDZZHE dE eWITH DIAERESIS dEF dEL eWITH DESCENDER fHOOK fMIDDLE HOOK fTAIL dEM eWITH TAIL
  dEN eWITH DESCENDER fHOOK fLEFT HOOK fMIDDLE HOOK fTAIL dER eWITH TICK dES eWITH DESCENDER dFITA
  dGHE eWITH DESCENDER fMIDDLE HOOK fSTROKE gAND HOOK fUPTURN dGJE dHA eWITH DESCENDER fHOOK
  fSTROKE dHARD SIGN dHWE dI eWITH DIAERESIS fGRAVE fMACRON dIE eWITH BREVE fGRAVE dIO dIOTA
  dIOTIFIED A eBIG YUS eCLOSED LITTLE YUS eE eLITTLE YUS eYAT dIZHITSA eWITH DOUBLE GRAVE ACCENT
  dJE dKA eWITH DESCENDER fHOOK fSTROKE fVERTICAL STROKE dKHAKASSIAN CHE dKJE dKOMI DE eDJE eDZJE
  eLJE eNJE eSJE eTJE eZJE dKOPPA dKSI dLHA dLITTLE YUS dLJE dLONG-LEGGED DE dMONOCULAR O
  dMONOGRAPH UK dNARROW O dNEUTRAL YER dNJE dO eWITH DIAERESIS dOMEGA eWITH TITLO dOT dPALOCHKA dPE
  eWITH DESCENDER fMIDDLE HOOK dPSI dQA dREVERSED DZE eTSE eYU eZE dRHA dROUND OMEGA dROUNDED VE
  dSCHWA eWITH DIAERESIS dSEMISOFT SIGN dSHA dSHCHA dSHHA eWITH DESCENDER dSHORT I fWITH TAIL eU
  dSHWE dSOFT DE eEL eEM eSIGN dSTRAIGHT U fWITH STROKE dTALL HARD SIGN eTE eYAT dTCHE dTE eWITH
  DESCENDER fMIDDLE HOOK dTHREE-LEGGED TE dTSE dTSHE dTSSE dTSWE dTWE dU eWITH DIAERESIS fDOUBLE
  ACUTE fMACRON dUK dUKRAINIAN IE dUNBLENDED UK dVE dWE dWIDE ES dYA dYAE dYAT dYERU eWITH BACK YER
  fDIAERESIS dYI dYN dYU dZE eWITH DESCENDER fDIAERESIS dZEMLYA dZHE eWITH BREVE fDESCENDER
  fDIAERESIS dZHWE cLIGATURE A IE dEN GHE dTE TSE bTHOUSANDS SIGN aDAGGER bKNIFE bWITH LEFT GUARD
  cRIGHT GUARD aDALET SYMBOL aDANCER aDANGO aDARK SHADE bSUNGLASSES aDASH SYMBOL bWITH LEFT UPTURN
  aDASHED LOW LINE bOVERLINE bTRIANGLE-HEADED RIGHTWARDS ARROW aDATA LINK ESCAPE aDC1 aDC2 aDC3
  aDC4 aDCS aDEAF PERSON aDECIDUOUS TREE aDECIMAL EXPONENT SYMBOL bSEPARATOR KEY SYMBOL aDECREASE
  FONT SIZE SYMBOL aDEER aDEGREE CELSIUS bFAHRENHEIT bSIGN aDEL aDELETE aDELIVERY TRUCK aDELTA
  EQUAL TO aDENTISTRY SYMBOL LIGHT DOWN AND HORIZONTAL gWITH CIRCLE hTRIANGLE hWAVE dUP AND
  HORIZONTAL gWITH CIRCLE hTRIANGLE hWAVE dVERTICAL AND BOTTOM LEFT gRIGHT fTOP LEFT gRIGHT fWAVE
  eWITH CIRCLE fTRIANGLE aDEPARTMENT STORE aDERELICT HOUSE BUILDING aDESCENDING NODE aDESERET
  CAPITAL LETTER AY dBEE dCHEE dDEE dEF dEL dEM dEN dENG dER dES dESH dETH dEW dGAY dH dJEE dKAY
  dLONG A eAH eE eI eO eOO dOI dOW dPEE dSHORT A eAH eE eI eO eOO dTEE dTHEE dVEE dWU dYEE dZEE
  dZHEE bSMALL LETTER AY dBEE dCHEE dDEE dEF dEL dEM dEN dENG dER dES dESH dETH dEW dGAY dH dJEE
  dKAY dLONG A eAH eE eI eO eOO dOI dOW dPEE dSHORT A eAH eE eI eO eOO dTEE dTHEE dVEE dWU dYEE
  dZEE dZHEE aDESERT bISLAND aDESKTOP COMPUTER bWINDOW aDEVANAGARI ABBREVIATION SIGN bACUTE ACCENT
  bCARET bDANDA bDIGIT EIGHT cFIVE cFOUR cNINE cONE cSEVEN cSIX cTHREE cTWO cZERO bDOUBLE DANDA
  bGAP FILLER bGRAVE ACCENT bHEADSTROKE bJAIN OM bLETTER A cAA cAI cAU cAW cAY cBA cBBA cBHA cCA
  cCANDRA A dE dO cCHA cDA cDDA cDDDA cDDDHA cDDHA cDHA cE cFA cGA cGGA cGHA cGHHA cGLOTTAL STOP
  cHA cHEAVY YA cI cII cJA cJHA cJJA cKA cKHA cKHHA cLA cLLA cLLLA cMA cMARWARI DDA cNA cNGA cNNA
  cNNNA cNYA cO cOE cOOE cPA cPHA cQA cRA cRHA cRRA cSA cSHA cSHORT A dE dO cSSA cTA cTHA cTTA
  cTTHA cU cUE cUU cUUE cVA cVOCALIC L dLL dR dRR cYA cYYA cZA cZHA bOM bSIGN ANUSVARA cAVAGRAHA
  cCANDRABINDU dAVAGRAHA dTHREE dTWO dVIRAMA cDOUBLE CANDRABINDU VIRAMA cHIGH SPACING DOT cINVERTED
  CANDRABINDU cNUKTA cPUSHPIKA cSIDDHAM cSPACING CANDRABINDU cVIRAMA cVISARGA bSTRESS SIGN ANUDATTA
  dUDATTA bVOWEL SIGN AA dAI dAU dAW dAY dCANDRA E eLONG E eO dE dI dII dO dOE dOOE dPRISHTHAMATRA
  E dSHORT E eO dU dUE dUU dUUE dVOCALIC L eLL eR eRR aDEVICE CONTROL FOUR cONE cSTRING cTHREE cTWO
  aDIAERESIS aDIAMETER SIGN aDIAMOND OPERATOR bSHAPE WITH A DOT INSIDE bTARGET bWITH BOTTOM HALF
  BLACK cLEFT HALF BLACK cRIGHT HALF BLACK cTOP HALF BLACK aDIE FACE-1 bFACE-2 bFACE-3 bFACE-4
  bFACE-5 bFACE-6 aDIESEL LOCOMOTIVE aDIFFERENCE BETWEEN aDIGIT EIGHT cCOMMA cFULL STOP bFIVE
  cCOMMA cFULL STOP bFOUR cCOMMA cFULL STOP bNINE cCOMMA cFULL STOP bONE cCOMMA cFULL STOP bSEVEN
  cCOMMA cFULL STOP bSIX cCOMMA cFULL STOP bTHREE cCOMMA cFULL STOP bTWO cCOMMA cFULL STOP bZERO
  cCOMMA cFULL STOP aDIGRAM FOR EARTH cEARTHLY HEAVEN dHUMAN cGREATER YANG dYIN cHEAVENLY EARTH
  cHUMAN EARTH cLESSER YANG dYIN aDIMENSION ORIGIN aDINGBAT CIRCLED SANS-SERIF DIGIT EIGHT eFIVE
  eFOUR eNINE eONE eSEVEN eSIX eTHREE eTWO eZERO dNUMBER TEN bNEGATIVE CIRCLED DIGIT EIGHT eFIVE
  eFOUR eNINE eONE eSEVEN eSIX eTHREE eTWO dNUMBER TEN dSANS-SERIF DIGIT EIGHT fFIVE fFOUR fNINE
  fONE fSEVEN fSIX fTHREE fTWO fZERO eNUMBER TEN aDIRECT CURRENT SYMBOL FORM TWO bHIT aDISABLED CAR
  aDISAPPOINTED BUT RELIEVED FACE bFACE aDISCONTINUOUS UNDERLINE SYMBOL aDISGUISED FACE aDITTO MARK
  aDIVES AKURU DIGIT EIGHT dFIVE dFOUR dNINE dONE dSEVEN dSIX dTHREE dTWO dZERO cDOUBLE DANDA cEND
  OF TEXT MARK cGAP FILLER cINITIAL RA cLETTER A dAA dBA dBHA dCA dCHA dDA dDDA dDDHA dDHA dE dGA
  dGHA dHA dI dII dJA dKA dKHA dLA dLLA dMA dNA dNGA dNNA dNYA dO dPA dPHA dRA dSA dSHA dSSA dTA
  dTHA dTTA dU dUU dVA dYA dYYA dZA cMEDIAL RA dYA cPREFIXED NASAL SIGN cSIGN ANUSVARA dCANDRABINDU
  dHALANTA dNUKTA cVIRAMA cVOWEL SIGN AA eAI eE eI eII eO eU eUU aDIVIDES aDIVING MASK aDIVISION
  SIGN bSLASH bTIMES aDIVORCE SYMBOL aDIYA LAMP aDIZZY FACE bSYMBOL aDLE aDNA DOUBLE HELIX aDO NOT
  LITTER SYMBOL aDOCUMENT bWITH PICTURE cTEXT dAND PICTURE aDODO aDOES NOT CONTAIN AS MEMBER
  eNORMAL SUBGROUP gOR EQUAL cDIVIDE dWITH REVERSED NEGATION SLASH cFORCE cPRECEDE dOR EQUAL cPROVE
  cSUCCEED dOR EQUAL aDOG bFACE aDOGRA ABBREVIATION SIGN bLETTER A cAA cAI cAU cBA cBHA cCA cCHA
  cDA cDDA cDDHA cDHA cE cGA cGHA cHA cI cII cJA cJHA cKA cKHA cLA cMA cNA cNGA cNNA cNYA cO cPA
  cPHA cRA cRRA cSA cSHA cSSA cTA cTHA cTTA cTTHA cU cUU cVA cYA bSIGN ANUSVARA cNUKTA cVIRAMA
  cVISARGA bVOWEL SIGN AA dAI dAU dE dI dII dO dU dUU dVOCALIC R eRR aDOLLAR SIGN aDOLPHIN aDOMINO
  TILE HORIZONTAL BACK cHORIZONTAL-00-00 cHORIZONTAL-00-01 cHORIZONTAL-00-02 cHORIZONTAL-00-03
  cHORIZONTAL-00-04 cHORIZONTAL-00-05 cHORIZONTAL-00-06 cHORIZONTAL-01-00 cHORIZONTAL-01-01
  cHORIZONTAL-01-02 cHORIZONTAL-01-03 cHORIZONTAL-01-04 cHORIZONTAL-01-05 cHORIZONTAL-01-06
  cHORIZONTAL-02-00 cHORIZONTAL-02-01 cHORIZONTAL-02-02 cHORIZONTAL-02-03 cHORIZONTAL-02-04
  cHORIZONTAL-02-05 cHORIZONTAL-02-06 cHORIZONTAL-03-00 cHORIZONTAL-03-01 cHORIZONTAL-03-02
  cHORIZONTAL-03-03 cHORIZONTAL-03-04 cHORIZONTAL-03-05 cHORIZONTAL-03-06 cHORIZONTAL-04-00
  cHORIZONTAL-04-01 cHORIZONTAL-04-02 cHORIZONTAL-04-03 cHORIZONTAL-04-04 cHORIZONTAL-04-05
  cHORIZONTAL-04-06 cHORIZONTAL-05-00 cHORIZONTAL-05-01 cHORIZONTAL-05-02 cHORIZONTAL-05-03
  cHORIZONTAL-05-04 cHORIZONTAL-05-05 cHORIZONTAL-05-06 cHORIZONTAL-06-00 cHORIZONTAL-06-01
  cHORIZONTAL-06-02 cHORIZONTAL-06-03 cHORIZONTAL-06-04 cHORIZONTAL-06-05 cHORIZONTAL-06-06
  cVERTICAL BACK cVERTICAL-00-00 cVERTICAL-00-01 cVERTICAL-00-02 cVERTICAL-00-03 cVERTICAL-00-04
  cVERTICAL-00-05 cVERTICAL-00-06 cVERTICAL-01-00 cVERTICAL-01-01 cVERTICAL-01-02 cVERTICAL-01-03
  cVERTICAL-01-04 cVERTICAL-01-05 cVERTICAL-01-06 cVERTICAL-02-00 cVERTICAL-02-01 cVERTICAL-02-02
  cVERTICAL-02-03 cVERTICAL-02-04 cVERTICAL-02-05 cVERTICAL-02-06 cVERTICAL-03-00 cVERTICAL-03-01
  cVERTICAL-03-02 cVERTICAL-03-03 cVERTICAL-03-04 cVERTICAL-03-05 cVERTICAL-03-06 cVERTICAL-04-00
  cVERTICAL-04-01 cVERTICAL-04-02 cVERTICAL-04-03 cVERTICAL-04-04 cVERTICAL-04-05 cVERTICAL-04-06
  cVERTICAL-05-00 cVERTICAL-05-01 cVERTICAL-05-02 cVERTICAL-05-03 cVERTICAL-05-04 cVERTICAL-05-05
  cVERTICAL-05-06 cVERTICAL-06-00 cVERTICAL-06-01 cVERTICAL-06-02 cVERTICAL-06-03 cVERTICAL-06-04
  cVERTICAL-06-05 cVERTICAL-06-06 aDONG SIGN aDOOR aDOT ABOVE bMINUS bOPERATOR bPLUS aDOTTED CIRCLE
  bCROSS bFENCE bLINE FACE bOBELOS bRIGHT-POINTING ANGLE bSOLIDUS bSQUARE bTRANSPOSITION MARKER
  aDOUBLE ACUTE ACCENT bCIRCLED DIGIT EIGHT dFIVE dFOUR dNINE dONE dSEVEN dSIX dTHREE dTWO cNUMBER
  TEN bCOLON EQUAL bCURLY LOOP bDAGGER bDOWN TACK bEXCLAMATION MARK bHIGH-REVERSED-9 QUOTATION MARK
  bHYPHEN bINTEGRAL bINTERSECTION bLEFT ARC GREATER-THAN BRACKET bLOGICAL AND cOR bLOW LINE bLOW-9
  QUOTATION MARK bLOW-REVERSED-9 QUOTATION MARK bNESTED GREATER-THAN cLESS-THAN dWITH UNDERBAR
  bOBLIQUE HYPHEN bPLUS bPRECEDES bPRIME cQUOTATION MARK bQUESTION MARK bRIGHT ARC LESS-THAN
  BRACKET bSOLIDUS OPERATOR bSQUARE INTERSECTION cUNION bSTACKED COMMA bSTROKE NOT SIGN bSUBSET
  bSUCCEEDS bSUPERSET bSUSPENSION MARK bUNION bUP TACK bVERTICAL BAR dDOUBLE LEFT TURNSTILE eRIGHT
  TURNSTILE dLEFT TURNSTILE cLINE bWAVY OVERLINE aDOUBLE-ENDED MULTIMAP aDOUBLE-LINE EQUAL TO OR
  GREATER-THAN eLESS-THAN bSLANTED EQUAL TO OR GREATER-THAN fLESS-THAN cGREATER-THAN OR EQUAL TO
  cLESS-THAN OR EQUAL TO aDOUBLE-STRUCK CAPITAL C cGAMMA cH cN cP cPI cQ cR cZ bITALIC CAPITAL D
  cSMALL D dE dI dJ bN-ARY SUMMATION bSMALL GAMMA cPI aDOUBLED FEMALE SIGN bMALE SIGN bSYMBOL
  aDOUGHNUT aDOVE OF PEACE aDOWN ARROWHEAD bFISH TAIL bRIGHT DIAGONAL ELLIPSIS bTACK cWITH CIRCLE
  BELOW aDOWN-POINTING RED TRIANGLE bSMALL RED TRIANGLE bTRIANGLE WITH LEFT HALF BLACK dRIGHT HALF
  BLACK aDOWNWARD FACING HOOK dWITH DOT cNOTCHED HOOK eWITH DOT aDOWNWARDS ANCORA bARROW cAND RIGHT
  ONE EIGHTH BLOCK cFROM BAR cLEFTWARDS OF UPWARDS ARROW cTO BAR cWITH CORNER LEFTWARDS dDOUBLE
  STROKE dEQUILATERAL ARROWHEAD dHORIZONTAL STROKE dLARGE TRIANGLE ARROWHEAD dMEDIUM TRIANGLE
  ARROWHEAD dNOTCHED TAIL dSMALL EQUILATERAL ARROWHEAD eTRIANGLE ARROWHEAD dTIP LEFTWARDS
  eRIGHTWARDS bBLACK ARROW cCIRCLED WHITE ARROW bCOMPRESSED ARROW bDASHED ARROW bDOUBLE ARROW
  bFINGER-POST ARROW bHARPOON WITH BARB LEFT BESIDE DOWNWARDS HARPOON WITH BARB RIGHT gUPWARDS
  HARPOON WITH BARB RIGHT fFROM BAR fTO BAR eLEFTWARDS eRIGHT FROM BAR fTO BAR eRIGHTWARDS bHEAVY
  ARROW cCOMPRESSED ARROW bPAIRED ARROWS bQUADRUPLE ARROW bROCKET bSANS-SERIF ARROW bSQUARED ARROW
  bTRIANGLE ARROWHEAD bTRIANGLE-HEADED ARROW dLEFTWARDS OF UPWARDS TRIANGLE-HEADED ARROW dTO BAR
  dWITH BOLD SHAFT eDOUBLE HORIZONTAL STROKE eHEAVY SHAFT eLONG TIP LEFTWARDS gRIGHTWARDS eMEDIUM
  SHAFT eNARROW SHAFT eVERY HEAVY SHAFT cDASHED ARROW cPAIRED ARROWS cZIGZAG ARROW bTRIPLE ARROW
  bTWO HEADED ARROW bTWO-HEADED ARROW WITH TRIANGLE ARROWHEADS bWHITE ARROW dWITHIN TRIANGLE
  ARROWHEAD bZIGZAG ARROW aDRACHMA SIGN aDRAFTING POINT RIGHTWARDS ARROW aDRAGON bFACE aDRESS
  aDRIVE SLOW SIGN aDROMEDARY CAMEL aDROOLING FACE aDROP OF BLOOD aDROPLET aDRUM WITH DRUMSTICKS
  aDUCK aDUMPLING aDUPLOYAN AFFIX ATTACHED E HOOK dI HOOK dLEFT-TO-RIGHT SECANT dSECANT dTAIL
  dTANGENT eHOOK cHIGH ACUTE dCIRCLE dDOT dGRAVE dLINE dLONG GRAVE dTIGHT ACUTE dVERTICAL eSECANT
  dWAVE cLEFT HORIZONTAL SECANT cLOW ACUTE dARROW dCIRCLE dDOT dGRAVE dLINE dLONG GRAVE dTIGHT
  ACUTE dVERTICAL eSECANT dWAVE cMID HORIZONTAL SECANT dVERTICAL SECANT cRIGHT HORIZONTAL SECANT
  bDOUBLE MARK bLETTER A cAOU cB cD dS cDH cE cEE cEU cF dN cG dR S cH cHL cI cIE cJ dM eS dN eS dS
  eWITH DOT dWITH DOT eDOTS INSIDE AND ABOVE cK dM dR S cKK cL cLH cLONG I dU cM dN eS dS dWITH DOT
  cN dM eS dS dWITH DOT cNASAL A dI dO dU cO cOA cOOH cOU cOW cP dN cPERNIN AM dAN cR dS cRH
  cROMANIAN I dU cS dJ eS dK eR dM dN dP eR dS dT eR dWITH DOT fBELOW cSHORT I cSLOAN AN dDH dEE
  dEH dEN dJ dON dOW dU cT dR S dS cTH cU dN cUH cUI cV cVOCALIC M cW dR cWA cWEI cWH cWI cWO cWOW
  cX cXW cYE bPUNCTUATION CHINOOK FULL STOP bSIGN O WITH CROSS bTHICK LETTER SELECTOR aDVD aE-MAIL
  SYMBOL aEAGLE aEAR bOF MAIZE cRICE bWITH HEARING AID aEARTH bGLOBE AMERICAS cASIA-AUSTRALIA
  cEUROPE-AFRICA bGROUND aEAST SYRIAC CROSS aEDITORIAL CORONIS aEGG aEGYPTIAN HIEROGLYPH A001 cA002
  cA003 cA004 cA005 cA005A cA006 cA006A cA006B cA007 cA008 cA009 cA010 cA011 cA012 cA013 cA014
  cA014A cA015 cA016 cA017 cA017A cA018 cA019 cA020 cA021 cA022 cA023 cA024 cA025 cA026 cA027 cA028
  cA029 cA030 cA031 cA032 cA032A cA033 cA034 cA035 cA036 cA037 cA038 cA039 cA040 cA040A cA041 cA042
  cA042A cA043 cA043A cA044 cA045 cA045A cA046 cA047 cA048 cA049 cA050 cA051 cA052 cA053 cA054
  cA055 cA056 cA057 cA058 cA059 cA060 cA061 cA062 cA063 cA064 cA065 cA066 cA067 cA068 cA069 cA070
  cAA001 cAA002 cAA003 cAA004 cAA005 cAA006 cAA007 cAA007A cAA007B cAA008 cAA009 cAA010 cAA011
  cAA012 cAA013 cAA014 cAA015 cAA016 cAA017 cAA018 cAA019 cAA020 cAA021 cAA022 cAA023 cAA024 cAA025
  cAA026 cAA027 cAA028 cAA029 cAA030 cAA031 cAA032 cB001 cB002 cB003 cB004 cB005 cB005A cB006 cB007
  cB008 cB009 cBEGIN SEGMENT cC001 cC002 cC002A cC002B cC002C cC003 cC004 cC005 cC006 cC007 cC008
  cC009 cC010 cC010A cC011 cC012 cC013 cC014 cC015 cC016 cC017 cC018 cC019 cC020 cC021 cC022 cC023
  cC024 cD001 cD002 cD003 cD004 cD005 cD006 cD007 cD008 cD008A cD009 cD010 cD011 cD012 cD013 cD014
  cD015 cD016 cD017 cD018 cD019 cD020 cD021 cD022 cD023 cD024 cD025 cD026 cD027 cD027A cD028 cD029
  cD030 cD031 cD031A cD032 cD033 cD034 cD034A cD035 cD036 cD037 cD038 cD039 cD040 cD041 cD042 cD043
  cD044 cD045 cD046 cD046A cD047 cD048 cD048A cD049 cD050 cD050A cD050B cD050C cD050D cD050E cD050F
  cD050G cD050H cD050I cD051 cD052 cD052A cD053 cD054 cD054A cD055 cD056 cD057 cD058 cD059 cD060
  cD061 cD062 cD063 cD064 cD065 cD066 cD067 cD067A cD067B cD067C cD067D cD067E cD067F cD067G cD067H
  cE001 cE002 cE003 cE004 cE005 cE006 cE007 cE008 cE008A cE009 cE009A cE010 cE011 cE012 cE013 cE014
  cE015 cE016 cE016A cE017 cE017A cE018 cE019 cE020 cE020A cE021 cE022 cE023 cE024 cE025 cE026
  cE027 cE028 cE028A cE029 cE030 cE031 cE032 cE033 cE034 cE034A cE036 cE037 cE038 cEND SEGMENT
  cF001 cF001A cF002 cF003 cF004 cF005 cF006 cF007 cF008 cF009 cF010 cF011 cF012 cF013 cF013A cF014
  cF015 cF016 cF017 cF018 cF019 cF020 cF021 cF021A cF022 cF023 cF024 cF025 cF026 cF027 cF028 cF029
  cF030 cF031 cF031A cF032 cF033 cF034 cF035 cF036 cF037 cF037A cF038 cF038A cF039 cF040 cF041
  cF042 cF043 cF044 cF045 cF045A cF046 cF046A cF047 cF047A cF048 cF049 cF050 cF051 cF051A cF051B
  cF051C cF052 cF053 cG001 cG002 cG003 cG004 cG005 cG006 cG006A cG007 cG007A cG007B cG008 cG009
  cG010 cG011 cG011A cG012 cG013 cG014 cG015 cG016 cG017 cG018 cG019 cG020 cG020A cG021 cG022 cG023
  cG024 cG025 cG026 cG026A cG027 cG028 cG029 cG030 cG031 cG032 cG033 cG034 cG035 cG036 cG036A cG037
  cG037A cG038 cG039 cG040 cG041 cG042 cG043 cG043A cG044 cG045 cG045A cG046 cG047 cG048 cG049
  cG050 cG051 cG052 cG053 cG054 cH001 cH002 cH003 cH004 cH005 cH006 cH006A cH007 cH008 cHORIZONTAL
  JOINER cI001 cI002 cI003 cI004 cI005 cI005A cI006 cI007 cI008 cI009 cI009A cI010 cI010A cI011
  cI011A cI012 cI013 cI014 cI015 cINSERT AT BOTTOM END fSTART eTOP END fSTART cK001 cK002 cK003
  cK004 cK005 cK006 cK007 cK008 cL001 cL002 cL002A cL003 cL004 cL005 cL006 cL006A cL007 cL008 cM001
  cM001A cM001B cM002 cM003 cM003A cM004 cM005 cM006 cM007 cM008 cM009 cM010 cM010A cM011 cM012
  cM012A cM012B cM012C cM012D cM012E cM012F cM012G cM012H cM013 cM014 cM015 cM015A cM016 cM016A
  cM017 cM017A cM018 cM019 cM020 cM021 cM022 cM022A cM023 cM024 cM024A cM025 cM026 cM027 cM028
  cM028A cM029 cM030 cM031 cM031A cM032 cM033 cM033A cM033B cM034 cM035 cM036 cM037 cM038 cM039
  cM040 cM040A cM041 cM042 cM043 cM044 cN001 cN002 cN003 cN004 cN005 cN006 cN007 cN008 cN009 cN010
  cN011 cN012 cN013 cN014 cN015 cN016 cN017 cN018 cN018A cN018B cN019 cN020 cN021 cN022 cN023 cN024
  cN025 cN025A cN026 cN027 cN028 cN029 cN030 cN031 cN032 cN033 cN033A cN034 cN034A cN035 cN035A
  cN036 cN037 cN037A cN038 cN039 cN040 cN041 cN042 cNL001 cNL002 cNL003 cNL004 cNL005 cNL005A
  cNL006 cNL007 cNL008 cNL009 cNL010 cNL011 cNL012 cNL013 cNL014 cNL015 cNL016 cNL017 cNL017A
  cNL018 cNL019 cNL020 cNU001 cNU002 cNU003 cNU004 cNU005 cNU006 cNU007 cNU008 cNU009 cNU010
  cNU010A cNU011 cNU011A cNU012 cNU013 cNU014 cNU015 cNU016 cNU017 cNU018 cNU018A cNU019 cNU020
  cNU021 cNU022 cNU022A cO001 cO001A cO002 cO003 cO004 cO005 cO005A cO006 cO006A cO006B cO006C
  cO006D cO006E cO006F cO007 cO008 cO009 cO010 cO010A cO010B cO010C cO011 cO012 cO013 cO014 cO015
  cO016 cO017 cO018 cO019 cO019A cO020 cO020A cO021 cO022 cO023 cO024 cO024A cO025 cO025A cO026
  cO027 cO028 cO029 cO029A cO030 cO030A cO031 cO032 cO033 cO033A cO034 cO035 cO036 cO036A cO036B
  cO036C cO036D cO037 cO038 cO039 cO040 cO041 cO042 cO043 cO044 cO045 cO046 cO047 cO048 cO049 cO050
  cO050A cO050B cO051 cOVERLAY MIDDLE cP001 cP001A cP002 cP003 cP003A cP004 cP005 cP006 cP007 cP008
  cP009 cP010 cP011 cQ001 cQ002 cQ003 cQ004 cQ005 cQ006 cQ007 cR001 cR002 cR002A cR003 cR003A
  cR003B cR004 cR005 cR006 cR007 cR008 cR009 cR010 cR010A cR011 cR012 cR013 cR014 cR015 cR016
  cR016A cR017 cR018 cR019 cR020 cR021 cR022 cR023 cR024 cR025 cR026 cR027 cR028 cR029 cS001 cS002
  cS002A cS003 cS004 cS005 cS006 cS006A cS007 cS008 cS009 cS010 cS011 cS012 cS013 cS014 cS014A
  cS014B cS015 cS016 cS017 cS017A cS018 cS019 cS020 cS021 cS022 cS023 cS024 cS025 cS026 cS026A
  cS026B cS027 cS028 cS029 cS030 cS031 cS032 cS033 cS034 cS035 cS035A cS036 cS037 cS038 cS039 cS040
  cS041 cS042 cS043 cS044 cS045 cS046 cT001 cT002 cT003 cT003A cT004 cT005 cT006 cT007 cT007A cT008
  cT008A cT009 cT009A cT010 cT011 cT011A cT012 cT013 cT014 cT015 cT016 cT016A cT017 cT018 cT019
  cT020 cT021 cT022 cT023 cT024 cT025 cT026 cT027 cT028 cT029 cT030 cT031 cT032 cT032A cT033 cT033A
  cT034 cT035 cT036 cU001 cU002 cU003 cU004 cU005 cU006 cU006A cU006B cU007 cU008 cU009 cU010 cU011
  cU012 cU013 cU014 cU015 cU016 cU017 cU018 cU019 cU020 cU021 cU022 cU023 cU023A cU024 cU025 cU026
  cU027 cU028 cU029 cU029A cU030 cU031 cU032 cU032A cU033 cU034 cU035 cU036 cU037 cU038 cU039 cU040
  cU041 cU042 cV001 cV001A cV001B cV001C cV001D cV001E cV001F cV001G cV001H cV001I cV002 cV002A
  cV003 cV004 cV005 cV006 cV007 cV007A cV007B cV008 cV009 cV010 cV011 cV011A cV011B cV011C cV012
  cV012A cV012B cV013 cV014 cV015 cV016 cV017 cV018 cV019 cV020 cV020A cV020B cV020C cV020D cV020E
  cV020F cV020G cV020H cV020I cV020J cV020K cV020L cV021 cV022 cV023 cV023A cV024 cV025 cV026 cV027
  cV028 cV028A cV029 cV029A cV030 cV030A cV031 cV031A cV032 cV033 cV033A cV034 cV035 cV036 cV037
  cV037A cV038 cV039 cV040 cV040A cVERTICAL JOINER cW001 cW002 cW003 cW003A cW004 cW005 cW006 cW007
  cW008 cW009 cW009A cW010 cW010A cW011 cW012 cW013 cW014 cW014A cW015 cW016 cW017 cW017A cW018
  cW018A cW019 cW020 cW021 cW022 cW023 cW024 cW024A cW025 cX001 cX002 cX003 cX004 cX004A cX004B
  cX005 cX006 cX006A cX007 cX008 cX008A cY001 cY001A cY002 cY003 cY004 cY005 cY006 cY007 cY008
  cZ001 cZ002 cZ002A cZ002B cZ002C cZ002D cZ003 cZ003A cZ003B cZ004 cZ004A cZ005 cZ005A cZ006 cZ007
  cZ008 cZ009 cZ010 cZ011 cZ012 cZ013 cZ014 cZ015 cZ015A cZ015B cZ015C cZ015D cZ015E cZ015F cZ015G
  cZ015H cZ015I cZ016 cZ016A cZ016B cZ016C cZ016D cZ016E cZ016F cZ016G cZ016H aEIGHT PETALLED
  OUTLINED BLACK FLORETTE bPOINTED BLACK STAR cPINWHEEL STAR cRECTILINEAR BLACK STAR bSPOKED
  ASTERISK bTEARDROP-SPOKED PROPELLER ASTERISK aEIGHTH NOTE aEJECT SYMBOL aELBASAN LETTER A cBE cCE
  cCHE cDE cDHE cE cEI cFE cGE cGHAMMA cGHE cGJE cHE cI cJE cKE cKHE cLE cLLE cME cNA cNDE cNE cNJE
  cO cPE cQE cRE cRRE cSE cSHE cTE cTHE cU cVE cXE cY cZE cZHE aELECTRIC ARROW bLIGHT BULB bPLUG
  bTORCH aELECTRICAL INTERSECTION aELEMENT OF cOPENING DOWNWARDS dUPWARDS cWITH DOT ABOVE dLONG
  HORIZONTAL STROKE dOVERBAR dTWO HORIZONTAL STROKES dUNDERBAR dVERTICAL BAR AT END OF HORIZONTAL
  STROKE aELEPHANT aELEVATOR aELF aELYMAIC LETTER ALEPH cAYIN cBETH cDALETH cGIMEL cHE cHETH cKAPH
  cLAMEDH cMEM cNUN cPE cQOPH cRESH cSADHE cSAMEKH cSHIN cTAW cTETH cWAW cYODH cZAYIN bLIGATURE
  ZAYIN-YODH aEM DASH bQUAD bSPACE aEMOJI COMPONENT BALD cCURLY HAIR cRED HAIR cWHITE HAIR
  bMODIFIER FITZPATRICK TYPE-1-2 dTYPE-3 dTYPE-4 dTYPE-5 dTYPE-6 aEMPHASIS SYMBOL aEMPTY DOCUMENT
  bNEST bNOTE cPAD cPAGE bPAGE bPAGES bSET cWITH LEFT ARROW ABOVE dOVERBAR dRIGHT ARROW ABOVE
  dSMALL CIRCLE ABOVE aEN DASH bQUAD bSPACE aEND OF GUARDED AREA cLINE cMEDIUM cPROOF cPROTECTED
  AREA cSELECTED AREA cTEXT cTRANSMISSION dBLOCK bWITH LEFTWARDS ARROW ABOVE aENQ aENQUIRY aENTER
  SYMBOL aENVELOPE bWITH DOWNWARDS ARROW ABOVE cLIGHTNING aEOL aEOM aEOT aEPA aEQUAL AND PARALLEL
  TO bTO BY DEFINITION cOR GREATER-THAN dLESS-THAN dPRECEDES dSUCCEEDS aEQUALS COLON bSIGN cABOVE
  LEFTWARDS ARROW dPLUS SIGN dRIGHTWARDS ARROW dTILDE OPERATOR cAND SLANTED PARALLEL fWITH TILDE
  ABOVE cWITH BUMPY ABOVE dDOT BELOW dINFINITY BELOW dTWO DOTS ABOVE AND TWO DOTS BELOW bWITH
  ASTERISK aEQUIANGULAR TO aEQUIVALENT TO bWITH FOUR DOTS ABOVE aERASE TO THE LEFT dRIGHT aERIS
  FORM ONE cTWO aERROR-BARRED BLACK CIRCLE cDIAMOND cSQUARE bWHITE CIRCLE cDIAMOND cSQUARE aESA
  aESC aESCAPE aESTIMATED SYMBOL aESTIMATES aETB aETHIOPIC COLON bCOMBINING GEMINATION AND VOWEL
  LENGTH MARK dMARK cVOWEL LENGTH MARK bCOMMA bDIGIT EIGHT cFIVE cFOUR cNINE cONE cSEVEN cSIX
  cTHREE cTWO bFULL STOP bNUMBER EIGHTY cFIFTY cFORTY cHUNDRED cNINETY cSEVENTY cSIXTY cTEN
  dTHOUSAND cTHIRTY cTWENTY bPARAGRAPH SEPARATOR bPREFACE COLON bQUESTION MARK bSECTION MARK
  bSEMICOLON bSYLLABLE BA cBAA cBBA cBBAA cBBE cBBEE cBBI cBBO cBBU cBE cBEE cBI cBO cBOA cBU cBWA
  cBWE cBWEE cBWI cCA cCAA cCCA cCCAA cCCE cCCEE cCCHA cCCHAA cCCHE cCCHEE cCCHHA cCCHHAA cCCHHE
  cCCHHEE cCCHHI cCCHHO cCCHHU cCCHI cCCHO cCCHU cCCI cCCO cCCU cCE cCEE cCHA cCHAA cCHE cCHEE cCHI
  cCHO cCHOA cCHU cCHWA cCI cCO cCOA cCU cCWA cDA cDAA cDDA cDDAA cDDE cDDEE cDDHAA cDDHE cDDHEE
  cDDHI cDDHO cDDHU cDDI cDDO cDDOA cDDU cDDWA cDE cDEE cDI cDO cDOA cDU cDWA cDZAA cDZE cDZEE cDZI
  cDZO cDZU cFA cFAA cFE cFEE cFI cFO cFU cFWA cFWE cFWEE cFWI cFYA cGA cGAA cGE cGEE cGGA cGGAA
  cGGE cGGEE cGGI cGGO cGGU cGGWA cGGWAA cGGWE cGGWEE cGGWI cGI cGLOTTAL A dAA dE dEE dI dO dOA dU
  dWA cGO cGOA cGU cGURAGE BWEE dBWI dFWEE dFWI dGWE dGWEE dGWI dHHWA dKWE dKWEE dKWI dMWEE dMWI
  dPWEE dPWI dQWE dQWEE dQWI cGWA cGWAA cGWE cGWEE cGWI cGYA cGYAA cGYE cGYEE cGYI cGYO cGYU cHA
  cHAA cHE cHEE cHHA cHHAA cHHE cHHEE cHHI cHHO cHHU cHHWA cHHWE cHHWEE cHHWI cHHYA cHHYAA cHHYE
  cHHYEE cHHYI cHHYO cHHYU cHI cHO cHOA cHU cJA cJAA cJE cJEE cJI cJO cJOA cJU cJWA cKA cKAA cKE
  cKEE cKI cKO cKOA cKU cKWA cKWAA cKWE cKWEE cKWI cKXA cKXAA cKXE cKXEE cKXI cKXO cKXU cKXWA
  cKXWAA cKXWE cKXWEE cKXWI cKYA cKYAA cKYE cKYEE cKYI cKYO cKYU cLA cLAA cLE cLEE cLI cLO cLOA cLU
  cLWA cMA cMAA cME cMEE cMI cMO cMOA cMU cMWA cMWE cMWEE cMWI cMYA cNA cNAA cNE cNEE cNI cNO cNOA
  cNU cNWA cNYA cNYAA cNYE cNYEE cNYI cNYO cNYOA cNYU cNYWA cPA cPAA cPE cPEE cPHA cPHAA
  cPHARYNGEAL A dAA dE dEE dI dO dU cPHE cPHEE cPHI cPHO cPHOA cPHU cPHWA cPI cPO cPOA cPU cPWA
  cPWE cPWEE cPWI cQA cQAA cQE cQEE cQHA cQHAA cQHE cQHEE cQHI cQHO cQHU cQHWA cQHWAA cQHWE cQHWEE
  cQHWI cQI cQO cQOA cQU cQWA cQWAA cQWE cQWEE cQWI cQYA cQYAA cQYE cQYEE cQYI cQYO cQYU cRA cRAA
  cRE cREE cRI cRO cROA cRU cRWA cRYA cSA cSAA cSE cSEBATBEIT BWA dFWA dMWA dPWA cSEE cSHA cSHAA
  cSHE cSHEE cSHI cSHO cSHOA cSHU cSHWA cSI cSO cSOA cSSA cSSAA cSSE cSSEE cSSI cSSO cSSU cSU cSWA
  cSZA cSZAA cSZE cSZEE cSZI cSZO cSZU cSZWA cTA cTAA cTE cTEE cTHA cTHAA cTHE cTHEE cTHI cTHO
  cTHOA cTHU cTHWA cTI cTO cTOA cTSA cTSAA cTSE cTSEE cTSI cTSO cTSU cTSWA cTTHAA cTTHE cTTHEE
  cTTHI cTTHO cTTHU cTU cTWA cTZA cTZAA cTZE cTZEE cTZI cTZO cTZOA cTZU cVA cVAA cVE cVEE cVI cVO
  cVU cVWA cWA cWAA cWE cWEE cWI cWO cWOA cWU cXA cXAA cXE cXEE cXI cXO cXOA cXU cXWA cXWAA cXWE
  cXWEE cXWI cXYA cXYAA cXYE cXYEE cXYI cXYO cXYU cYA cYAA cYE cYEE cYI cYO cYOA cYU cZA cZAA cZE
  cZEE cZHA cZHAA cZHE cZHEE cZHI cZHO cZHU cZHWA cZI cZO cZOA cZU cZWA cZZA cZZAA cZZE cZZEE cZZI
  cZZO cZZU bTONAL MARK CHIRET dDERET dDERET-HIDET dDIFAT dHIDET dKENAT dKURT dRIKRIK dSHORT RIKRIK
  dYIZET bWORDSPACE aETX aEULER CONSTANT aEURO SIGN aEURO-CURRENCY SIGN aEUROPEAN CASTLE bPOST
  OFFICE aEVERGREEN TREE aEXCESS aEXCLAMATION MARK bQUESTION MARK aEXPRESSIONLESS FACE aEXTENDED
  ARABIC-INDIC DIGIT EIGHT dFIVE dFOUR dNINE dONE dSEVEN dSIX dTHREE dTWO dZERO aEXTRATERRESTRIAL
  ALIEN aEXTREMELY HEAVY FIVE SPOKED ASTERISK cGREEK CROSS cSALTIRE cSIX SPOKED ASTERISK cWHITE
  CIRCLE dSQUARE aEYE aEYEGLASSES aEYES aFACE HOLDING BACK TEARS bMASSAGE bPALM bSAVOURING
  DELICIOUS FOOD bSCREAMING IN FEAR bTHROWING A KISS bWITH COLD SWEAT cCOWBOY HAT cDIAGONAL MOUTH
  cFINGER COVERING CLOSED LIPS cHEAD-BANDAGE cLOOK OF TRIUMPH cMEDICAL MASK cMONOCLE cNO GOOD
  GESTURE cOK GESTURE cONE EYEBROW RAISED cOPEN EYES AND HAND OVER MOUTH dMOUTH eAND COLD SWEAT
  eVOMITING cPARTY HORN AND PARTY HAT cPEEKING EYE cPLEADING EYES cROLLING EYES cSTUCK-OUT TONGUE
  eAND TIGHTLY-CLOSED EYES fWINKING EYE cTEARS OF JOY cTHERMOMETER cUNEVEN EYES AND WAVY MOUTH
  bWITHOUT MOUTH aFACSIMILE SIGN aFACTORY aFAIRY aFALAFEL aFALLEN LEAF aFALLING DIAGONAL CROSSING
  NORTH EAST ARROW dRISING DIAGONAL cIN WHITE CIRCLE IN BLACK SQUARE aFAMILY aFARSI SYMBOL aFATHER
  CHRISTMAS aFAX ICON bMACHINE aFEARFUL FACE aFEATHER aFEMALE SIGN aFEMININE ORDINAL INDICATOR
  aFENCER aFERRIS WHEEL aFERRY aFF aFIELD HOCKEY STICK AND BALL aFIGURE DASH bSPACE aFILE CABINET
  bFOLDER bSEPARATOR aFILM FRAMES bPROJECTOR aFINITE PART INTEGRAL aFIRE bENGINE bEXTINGUISHER
  aFIRECRACKER aFIREWORK SPARKLER aFIREWORKS aFIRST PLACE MEDAL bQUARTER MOON dSYMBOL dWITH FACE
  bSTRONG ISOLATE aFISH bCAKE WITH SWIRL DESIGN aFISHEYE aFISHING POLE AND FISH aFISTED HAND SIGN
  aFIVE DOT MARK cPUNCTUATION aFLAG IN HOLE aFLAMINGO aFLAT SHOE aFLATBREAD aFLATNESS aFLEUR-DE-LIS
  aFLEXED BICEPS aFLOPPY DISK aFLORAL HEART aFLOWER bPLAYING CARDS bPUNCTUATION MARK aFLUSHED FACE
  aFLY aFLYING DISC bENVELOPE bSAUCER aFOG aFOGGY aFOLDER aFONDUE aFOOT aFOOTPRINTS aFOR ALL
  aFORCES aFORK AND KNIFE dWITH PLATE aFORKED PARAGRAPHOS aFORKING aFORM FEED aFORTUNE COOKIE
  aFOUNTAIN aFOUR BALLOON-SPOKED ASTERISK bCLUB-SPOKED ASTERISK bCORNER ARROWS CIRCLING
  ANTICLOCKWISE bDOT MARK cPUNCTUATION bLEAF CLOVER bPOINTED BLACK STAR bTEARDROP-SPOKED ASTERISK
  aFOUR-PER-EM SPACE aFOURTH ROOT aFOX FACE aFRACTION NUMERATOR ONE bSLASH aFRAME WITH AN X
  cPICTURE cTILES aFREEZING FACE aFRENCH FRANC SIGN bFRIES aFRIED SHRIMP aFROG FACE aFRONT-FACING
  BABY CHICK aFRONT-TILTED SHADOWED WHITE RIGHTWARDS ARROW aFROWN aFROWNING FACE WITH OPEN MOUTH
  aFS aFSI aFUEL PUMP aFULL BLOCK bMOON SYMBOL cWITH FACE bOUTER JOIN bSTOP aFULLWIDTH AMPERSAND
  bAPOSTROPHE bASTERISK bBROKEN BAR bCENT SIGN bCIRCUMFLEX ACCENT bCOLON bCOMMA bCOMMERCIAL AT
  bDIGIT EIGHT cFIVE cFOUR cNINE cONE cSEVEN cSIX cTHREE cTWO cZERO bDOLLAR SIGN bEQUALS SIGN
  bEXCLAMATION MARK bFULL STOP bGRAVE ACCENT bGREATER-THAN SIGN bHYPHEN-MINUS bLATIN CAPITAL LETTER
  A eB eC eD eE eF eG eH eI eJ eK eL eM eN eO eP eQ eR eS eT eU eV eW eX eY eZ cSMALL LETTER A eB
  eC eD eE eF eG eH eI eJ eK eL eM eN eO eP eQ eR eS eT eU eV eW eX eY eZ bLEFT CURLY BRACKET
  cPARENTHESIS cSQUARE BRACKET cWHITE PARENTHESIS bLESS-THAN SIGN bLOW LINE bMACRON bNOT SIGN
  bNUMBER SIGN bPERCENT SIGN bPLUS SIGN bPOUND SIGN bQUESTION MARK bQUOTATION MARK bREVERSE SOLIDUS
  bRIGHT CURLY BRACKET cPARENTHESIS cSQUARE BRACKET cWHITE PARENTHESIS bSEMICOLON bSOLIDUS bTILDE
  bVERTICAL LINE bWON SIGN bYEN SIGN aFUNCTION APPLICATION aFUNERAL URN aFUSE aFVS1 aFVS2 aFVS3
  aFVS4 aGAME DIE aGARLIC aGEAR bWITH HANDLES bWITHOUT HUB aGEM STONE aGEMINI aGENIE aGEOMETRIC
  PROPORTION aGEOMETRICALLY EQUAL TO bEQUIVALENT TO aGEORGIAN CAPITAL LETTER AEN dAN dBAN dCAN
  dCHAR dCHIN dCIL dDON dEN dGAN dGHAN dHAE dHAR dHE dHIE dHOE dIN dJHAN dJIL dKAN dKHAR dLAS dMAN
  dNAR dON dPAR dPHAR dQAR dRAE dSAN dSHIN dTAN dTAR dUN dVIN dWE dXAN dYN dZEN dZHAR bLETTER AEN
  cAIN cAN cBAN cCAN cCHAR cCHIN cCIL cDON cELIFI cEN cFI cGAN cGHAN cHAE cHAR cHARD SIGN cHE cHIE
  cHOE cIN cJHAN cJIL cKAN cKHAR cLABIAL SIGN cLAS cMAN cNAR cON cPAR cPHAR cQAR cRAE cSAN cSHIN
  cTAN cTAR cTURNED GAN cUN cVIN cWE cXAN cYN cZEN cZHAR bMTAVRULI CAPITAL LETTER AEN eAIN eAN eBAN
  eCAN eCHAR eCHIN eCIL eDON eELIFI eEN eFI eGAN eGHAN eHAE eHAR eHARD SIGN eHE eHIE eHOE eIN eJHAN
  eJIL eKAN eKHAR eLABIAL SIGN eLAS eMAN eNAR eON ePAR ePHAR eQAR eRAE eSAN eSHIN eTAN eTAR eTURNED
  GAN eUN eVIN eWE eXAN eYN eZEN eZHAR bPARAGRAPH SEPARATOR bSMALL LETTER AEN dAN dBAN dCAN dCHAR
  dCHIN dCIL dDON dEN dGAN dGHAN dHAE dHAR dHE dHIE dHOE dIN dJHAN dJIL dKAN dKHAR dLAS dMAN dNAR
  dON dPAR dPHAR dQAR dRAE dSAN dSHIN dTAN dTAR dUN dVIN dWE dXAN dYN dZEN dZHAR aGERMAN PENNY SIGN
  aGETA MARK aGHOST aGIMEL SYMBOL aGIRAFFE FACE aGIRL aGIRLS SYMBOL aGLAGOLITIC CAPITAL LETTER AZU
  dBIG YUS dBUKY dCAUDATE CHRIVI dCHRIVI dDJERVI dDOBRO dDZELO dFITA dFRITU dGLAGOLI dHERU dI
  dINITIAL IZHE dIOTATED BIG YUS eSMALL YUS dIZHE dIZHITSA dKAKO dLATINATE MYSLITE dLJUDIJE
  dMYSLITE dNASHI dONU dOTU dPE dPOKOJI dRITSI dSHA dSHTA dSHTAPIC dSLOVO dSMALL YUS fWITH TAIL
  dSPIDERY HA dTROKUTASTI A dTSI dTVRIDO dUKU dVEDE dYATI dYERI dYERU dYESTU dYO dYU dZEMLJA
  dZHIVETE bSMALL LETTER AZU dBIG YUS dBUKY dCAUDATE CHRIVI dCHRIVI dDJERVI dDOBRO dDZELO dFITA
  dFRITU dGLAGOLI dHERU dI dINITIAL IZHE dIOTATED BIG YUS eSMALL YUS dIZHE dIZHITSA dKAKO dLATINATE
  MYSLITE dLJUDIJE dMYSLITE dNASHI dONU dOTU dPE dPOKOJI dRITSI dSHA dSHTA dSHTAPIC dSLOVO dSMALL
  YUS fWITH TAIL dSPIDERY HA dTROKUTASTI A dTSI dTVRIDO dUKU dVEDE dYATI dYERI dYERU dYESTU dYO dYU
  dZEMLJA dZHIVETE aGLASS OF MILK aGLEICH STARK aGLOBE WITH MERIDIANS aGLOVES aGLOWING STAR aGOAL
  NET aGOAT aGOGGLES aGOLFER aGORILLA aGOTHIC LETTER AHSA cAIHVUS cBAIRKAN cDAGS cEIS cFAIHU cGIBA
  cHAGL cHWAIR cIGGWS cIUJA cJER cKUSMA cLAGUS cMANNA cNAUTHS cNINE HUNDRED cNINETY cOTHAL
  cPAIRTHRA cQAIRTHRA cRAIDA cSAUIL cTEIWS cTHIUTH cURUS cWINJA aGRADUATION CAP aGRANTHA AU LENGTH
  MARK bLETTER A cAA cAI cAU cBA cBHA cCA cCHA cDA cDDA cDDHA cDHA cEE cGA cGHA cHA cI cII cJA cJHA
  cKA cKHA cLA cLLA cMA cNA cNGA cNNA cNYA cOO cPA cPHA cRA cSA cSHA cSSA cTA cTHA cTTA cTTHA cU
  cUU cVA cVEDIC ANUSVARA dDOUBLE ANUSVARA cVOCALIC L dLL dR dRR cYA bOM bSIGN ANUSVARA cAVAGRAHA
  cCANDRABINDU cCOMBINING ANUSVARA ABOVE cNUKTA cPLUTA cVIRAMA cVISARGA bVOWEL SIGN AA dAI dAU dEE
  dI dII dOO dU dUU dVOCALIC L eLL eR eRR aGRAPES aGRAVE ACCENT aGREATER-THAN ABOVE DOUBLE-LINE
  EQUAL ABOVE LESS-THAN cLESS-THAN ABOVE DOUBLE-LINE EQUAL cRIGHTWARDS ARROW cSIMILAR ABOVE
  LESS-THAN dOR EQUAL cSLANTED EQUAL ABOVE LESS-THAN ABOVE SLANTED EQUAL bAND NOT APPROXIMATE
  cSINGLE-LINE NOT EQUAL TO bBESIDE LESS-THAN bBUT NOT EQUAL TO dEQUIVALENT TO bCLOSED BY CURVE
  eABOVE SLANTED EQUAL bEQUAL TO OR LESS-THAN bOR APPROXIMATE cEQUAL TO cEQUIVALENT TO cLESS-THAN
  cSLANTED EQUAL TO fWITH DOT ABOVE iLEFT hINSIDE bOVER EQUAL TO bOVERLAPPING LESS-THAN bSIGN bWITH
  CIRCLE INSIDE cDOT cQUESTION MARK ABOVE aGREEK ACROPHONIC ATTIC FIFTY eSTATERS eTALENTS eTHOUSAND
  fSTATERS dFIVE eHUNDRED fSTATERS fTALENTS eSTATERS eTALENTS eTHOUSAND fTALENTS dONE DRACHMA eHALF
  eHUNDRED STATERS fTALENTS eQUARTER eTHOUSAND STATERS fTALENTS dTEN MNAS eSTATERS eTALENTS
  eTHOUSAND STATERS cCARYSTIAN FIVE HUNDRED cCYRENAIC TWO DRACHMAS cDELPHIC FIVE MNAS cEPIDAUREAN
  FIVE HUNDRED dTWO eDRACHMAS cHERAEUM ONE PLETHRON cHERMIONIAN FIFTY dONE dTEN cMESSENIAN TEN
  cNAXIAN FIVE HUNDRED cSTRATIAN FIFTY MNAS cTHESPIAN FIFTY dFIVE HUNDRED eTHOUSAND dONE eHUNDRED
  eTHOUSAND dTEN dTHIRTY dTHREE HUNDRED dTWO cTROEZENIAN FIFTY eALTERNATE FORM dFIVE eHUNDRED dTEN
  eALTERNATE FORM bANO TELEIA bAROURA SIGN bARTABE SIGN bBETA SYMBOL bCAPITAL DOTTED LUNATE SIGMA
  SYMBOL cKAI SYMBOL cLETTER ALPHA eWITH DASIA gAND OXIA iAND PROSGEGRAMMENI hPERISPOMENI iAND
  PROSGEGRAMMENI hPROSGEGRAMMENI hVARIA iAND PROSGEGRAMMENI fMACRON fOXIA fPROSGEGRAMMENI fPSILI
  gAND OXIA iAND PROSGEGRAMMENI hPERISPOMENI iAND PROSGEGRAMMENI hPROSGEGRAMMENI hVARIA iAND
  PROSGEGRAMMENI fTONOS fVARIA fVRACHY dARCHAIC SAMPI dBETA dCHI dDELTA dEPSILON eWITH DASIA gAND
  OXIA hVARIA fOXIA fPSILI gAND OXIA hVARIA fTONOS fVARIA dETA eWITH DASIA gAND OXIA iAND
  PROSGEGRAMMENI hPERISPOMENI iAND PROSGEGRAMMENI hPROSGEGRAMMENI hVARIA iAND PROSGEGRAMMENI fOXIA
  fPROSGEGRAMMENI fPSILI gAND OXIA iAND PROSGEGRAMMENI hPERISPOMENI iAND PROSGEGRAMMENI
  hPROSGEGRAMMENI hVARIA iAND PROSGEGRAMMENI fTONOS fVARIA dGAMMA dHETA dIOTA eWITH DASIA gAND OXIA
  hPERISPOMENI hVARIA fDIALYTIKA fMACRON fOXIA fPSILI gAND OXIA hPERISPOMENI hVARIA fTONOS fVARIA
  fVRACHY dKAPPA dLAMDA dMU dNU dOMEGA eWITH DASIA gAND OXIA iAND PROSGEGRAMMENI hPERISPOMENI iAND
  PROSGEGRAMMENI hPROSGEGRAMMENI hVARIA iAND PROSGEGRAMMENI fOXIA fPROSGEGRAMMENI fPSILI gAND OXIA
  iAND PROSGEGRAMMENI hPERISPOMENI iAND PROSGEGRAMMENI hPROSGEGRAMMENI hVARIA iAND PROSGEGRAMMENI
  fTONOS fVARIA dOMICRON eWITH DASIA gAND OXIA hVARIA fOXIA fPSILI gAND OXIA hVARIA fTONOS fVARIA
  dPAMPHYLIAN DIGAMMA dPHI dPI dPSI dRHO eWITH DASIA dSAN dSHO dSIGMA dTAU dTHETA dUPSILON eWITH
  DASIA gAND OXIA hPERISPOMENI hVARIA fDIALYTIKA fMACRON fOXIA fTONOS fVARIA fVRACHY dXI dYOT dZETA
  cLUNATE SIGMA SYMBOL cREVERSED DOTTED LUNATE SIGMA SYMBOL dLUNATE SIGMA SYMBOL cTHETA SYMBOL
  bDASIA cAND OXIA dPERISPOMENI dVARIA bDIALYTIKA AND OXIA dPERISPOMENI dVARIA cTONOS bDRACHMA SIGN
  bFIVE OBOLS SIGN bFOUR OBOLS SIGN bGRAMMA SIGN bINDICTION SIGN bINSTRUMENTAL NOTATION SYMBOL-1
  dSYMBOL-11 dSYMBOL-12 dSYMBOL-13 dSYMBOL-14 dSYMBOL-17 dSYMBOL-18 dSYMBOL-19 dSYMBOL-2 dSYMBOL-23
  dSYMBOL-24 dSYMBOL-25 dSYMBOL-26 dSYMBOL-27 dSYMBOL-29 dSYMBOL-30 dSYMBOL-32 dSYMBOL-36
  dSYMBOL-37 dSYMBOL-38 dSYMBOL-39 dSYMBOL-4 dSYMBOL-40 dSYMBOL-42 dSYMBOL-43 dSYMBOL-45 dSYMBOL-47
  dSYMBOL-48 dSYMBOL-49 dSYMBOL-5 dSYMBOL-50 dSYMBOL-51 dSYMBOL-52 dSYMBOL-53 dSYMBOL-54 dSYMBOL-7
  dSYMBOL-8 bKAI SYMBOL bKAPPA SYMBOL bKORONIS bKYATHOS BASE SIGN bLETTER ARCHAIC KOPPA cDIGAMMA
  cKOPPA cSAMPI cSMALL CAPITAL GAMMA eLAMDA eOMEGA ePI ePSI eRHO cSTIGMA cYOT bLITRA SIGN bLOWER
  NUMERAL SIGN bLUNATE EPSILON SYMBOL cSIGMA SYMBOL bMETRETES SIGN bMUSICAL LEIMMA bNUMERAL SIGN
  bOBOL SIGN bONE HALF SIGN eALTERNATE FORM cQUARTER SIGN bOUNKIA SIGN bOXIA bPERISPOMENI bPHI
  SYMBOL bPI SYMBOL bPROSGEGRAMMENI bPSILI cAND OXIA dPERISPOMENI dVARIA bQUESTION MARK bREVERSED
  LUNATE EPSILON SYMBOL bRHO SYMBOL cWITH STROKE SYMBOL bSINUSOID SIGN bSMALL DOTTED LUNATE SIGMA
  SYMBOL cLETTER ALPHA eWITH DASIA gAND OXIA iAND YPOGEGRAMMENI hPERISPOMENI iAND YPOGEGRAMMENI
  hVARIA iAND YPOGEGRAMMENI hYPOGEGRAMMENI fMACRON fOXIA gAND YPOGEGRAMMENI fPERISPOMENI gAND
  YPOGEGRAMMENI fPSILI gAND OXIA iAND YPOGEGRAMMENI hPERISPOMENI iAND YPOGEGRAMMENI hVARIA iAND
  YPOGEGRAMMENI hYPOGEGRAMMENI fTONOS fVARIA gAND YPOGEGRAMMENI fVRACHY fYPOGEGRAMMENI dARCHAIC
  KOPPA eSAMPI dBETA dCHI dDELTA dDIGAMMA dEPSILON eWITH DASIA gAND OXIA hVARIA fOXIA fPSILI gAND
  OXIA hVARIA fTONOS fVARIA dETA eWITH DASIA gAND OXIA iAND YPOGEGRAMMENI hPERISPOMENI iAND
  YPOGEGRAMMENI hVARIA iAND YPOGEGRAMMENI hYPOGEGRAMMENI fOXIA gAND YPOGEGRAMMENI fPERISPOMENI gAND
  YPOGEGRAMMENI fPSILI gAND OXIA iAND YPOGEGRAMMENI hPERISPOMENI iAND YPOGEGRAMMENI hVARIA iAND
  YPOGEGRAMMENI hYPOGEGRAMMENI fTONOS fVARIA gAND YPOGEGRAMMENI fYPOGEGRAMMENI dFINAL SIGMA dGAMMA
  dHETA dIOTA eWITH DASIA gAND OXIA hPERISPOMENI hVARIA fDIALYTIKA gAND OXIA hPERISPOMENI hTONOS
  hVARIA fMACRON fOXIA fPERISPOMENI fPSILI gAND OXIA hPERISPOMENI hVARIA fTONOS fVARIA fVRACHY
  dKAPPA dKOPPA dLAMDA dMU dNU dOMEGA eWITH DASIA gAND OXIA iAND YPOGEGRAMMENI hPERISPOMENI iAND
  YPOGEGRAMMENI hVARIA iAND YPOGEGRAMMENI hYPOGEGRAMMENI fOXIA gAND YPOGEGRAMMENI fPERISPOMENI gAND
  YPOGEGRAMMENI fPSILI gAND OXIA iAND YPOGEGRAMMENI hPERISPOMENI iAND YPOGEGRAMMENI hVARIA iAND
  YPOGEGRAMMENI hYPOGEGRAMMENI fTONOS fVARIA gAND YPOGEGRAMMENI fYPOGEGRAMMENI dOMICRON eWITH DASIA
  gAND OXIA hVARIA fOXIA fPSILI gAND OXIA hVARIA fTONOS fVARIA dPAMPHYLIAN DIGAMMA dPHI dPI dPSI
  dRHO eWITH DASIA fPSILI dSAMPI dSAN dSHO dSIGMA dSTIGMA dTAU dTHETA dUPSILON eWITH DASIA gAND
  OXIA hPERISPOMENI hVARIA fDIALYTIKA gAND OXIA hPERISPOMENI hTONOS hVARIA fMACRON fOXIA
  fPERISPOMENI fPSILI gAND OXIA hPERISPOMENI hVARIA fTONOS fVARIA fVRACHY dXI dZETA cREVERSED
  DOTTED LUNATE SIGMA SYMBOL dLUNATE SIGMA SYMBOL bSUBSCRIPT SMALL LETTER BETA eCHI eGAMMA ePHI
  eRHO bSYMBOL TAU RHO bTALENT SIGN bTHETA SYMBOL bTHREE OBOLS SIGN cQUARTERS SIGN bTONOS bTRYBLION
  BASE SIGN bTWO OBOLS SIGN cTHIRDS SIGN bUPSILON WITH ACUTE AND HOOK SYMBOL dDIAERESIS AND HOOK
  SYMBOL dHOOK SYMBOL bVARIA bVOCAL NOTATION SYMBOL-1 dSYMBOL-10 dSYMBOL-11 dSYMBOL-12 dSYMBOL-13
  dSYMBOL-14 dSYMBOL-15 dSYMBOL-16 dSYMBOL-17 dSYMBOL-18 dSYMBOL-19 dSYMBOL-2 dSYMBOL-20 dSYMBOL-21
  dSYMBOL-22 dSYMBOL-23 dSYMBOL-24 dSYMBOL-3 dSYMBOL-4 dSYMBOL-5 dSYMBOL-50 dSYMBOL-51 dSYMBOL-52
  dSYMBOL-53 dSYMBOL-54 dSYMBOL-6 dSYMBOL-7 dSYMBOL-8 dSYMBOL-9 bXESTES SIGN bYEAR SIGN
  bYPOGEGRAMMENI bZERO SIGN aGREEN APPLE bBOOK bHEART bSALAD aGRIMACING FACE aGRINNING CAT FACE
  WITH SMILING EYES bFACE cWITH ONE LARGE AND ONE SMALL EYE dSMILING EYES dSTAR EYES aGROUP MARK
  bSEPARATOR aGROWING HEART aGS aGUARANI SIGN aGUARDSMAN aGUIDE DOG aGUITAR aGUJARATI ABBREVIATION
  SIGN bDIGIT EIGHT cFIVE cFOUR cNINE cONE cSEVEN cSIX cTHREE cTWO cZERO bLETTER A cAA cAI cAU cBA
  cBHA cCA cCHA cDA cDDA cDDHA cDHA cE cGA cGHA cHA cI cII cJA cJHA cKA cKHA cLA cLLA cMA cNA cNGA
  cNNA cNYA cO cPA cPHA cRA cSA cSHA cSSA cTA cTHA cTTA cTTHA cU cUU cVA cVOCALIC L dLL dR dRR cYA
  cZHA bOM bRUPEE SIGN bSIGN ANUSVARA cAVAGRAHA cCANDRABINDU cCIRCLE NUKTA ABOVE cMADDAH cNUKTA
  cSHADDA cSUKUN cTHREE-DOT NUKTA ABOVE cTWO-CIRCLE NUKTA ABOVE cVIRAMA cVISARGA bVOWEL CANDRA E dO
  cSIGN AA dAI dAU dCANDRA E eO dE dI dII dO dU dUU dVOCALIC L eLL eR eRR aGUNJALA GONDI DIGIT
  EIGHT dFIVE dFOUR dNINE dONE dSEVEN dSIX dTHREE dTWO dZERO cLETTER A dAA dAI dAU dBA dBHA dCA
  dCHA dDA dDDA dDDHA dDHA dEE dGA dGHA dHA dI dII dJA dJHA dKA dKHA dLA dLLA dMA dNA dNGA dOO dPA
  dPHA dRA dSA dTA dTHA dTTA dTTHA dU dUU dVA dYA cOM cSIGN ANUSVARA dVISARGA cVIRAMA cVOWEL SIGN
  AA eAI eAU eEE eI eII eOO eU eUU aGURMUKHI ABBREVIATION SIGN bADDAK bDIGIT EIGHT cFIVE cFOUR
  cNINE cONE cSEVEN cSIX cTHREE cTWO cZERO bEK ONKAR bIRI bLETTER A cAA cAI cAU cBA cBHA cCA cCHA
  cDA cDDA cDDHA cDHA cEE cFA cGA cGHA cGHHA cHA cI cII cJA cJHA cKA cKHA cKHHA cLA cLLA cMA cNA
  cNGA cNNA cNYA cOO cPA cPHA cRA cRRA cSA cSHA cTA cTHA cTTA cTTHA cU cUU cVA cYA cZA bSIGN ADAK
  BINDI cBINDI cNUKTA cUDAAT cVIRAMA cVISARGA cYAKASH bTIPPI bURA bVOWEL SIGN AA dAI dAU dEE dI dII
  dOO dU dUU aHADES aHAIR SPACE aHAIRCUT aHALFWIDTH BLACK SQUARE bDOWNWARDS ARROW bFORMS LIGHT
  VERTICAL bHANGUL FILLER cLETTER A dAE dCHIEUCH dCIEUC dE dEO dEU dHIEUH dI dIEUNG dKHIEUKH
  dKIYEOK dKIYEOK-SIOS dMIEUM dNIEUN dNIEUN-CIEUC dNIEUN-HIEUH dO dOE dPHIEUPH dPIEUP dPIEUP-SIOS
  dRIEUL dRIEUL-HIEUH dRIEUL-KIYEOK dRIEUL-MIEUM dRIEUL-PHIEUPH dRIEUL-PIEUP dRIEUL-SIOS
  dRIEUL-THIEUTH dSIOS dSSANGCIEUC dSSANGKIYEOK dSSANGPIEUP dSSANGSIOS dSSANGTIKEUT dTHIEUTH
  dTIKEUT dU dWA dWAE dWE dWEO dWI dYA dYAE dYE dYEO dYI dYO dYU bIDEOGRAPHIC COMMA cFULL STOP
  bKATAKANA LETTER A dE dHA dHE dHI dHO dHU dI dKA dKE dKI dKO dKU dMA dME dMI dMO dMU dN dNA dNE
  dNI dNO dNU dO dRA dRE dRI dRO dRU dSA dSE dSI dSMALL A eE eI eO eTU eU eYA eYO eYU dSO dSU dTA
  dTE dTI dTO dTU dU dWA dWO dYA dYO dYU cMIDDLE DOT cSEMI-VOICED SOUND MARK cVOICED SOUND MARK
  bKATAKANA-HIRAGANA PROLONGED SOUND MARK bLEFT CORNER BRACKET bLEFTWARDS ARROW bRIGHT CORNER
  BRACKET bRIGHTWARDS ARROW bUPWARDS ARROW bWHITE CIRCLE aHAMBURGER aHAMMER bAND PICK cSICKLE
  cWRENCH aHAMSA aHAMSTER FACE aHAND WITH INDEX AND MIDDLE FINGERS CROSSED dFINGER AND THUMB
  CROSSED aHANDBAG aHANDBALL aHANDSHAKE aHANGUL CHOSEONG CEONGCHIEUMCHIEUCH cCEONGCHIEUMCIEUC
  cCEONGCHIEUMSIOS cCEONGCHIEUMSSANGCIEUC cCEONGCHIEUMSSANGSIOS cCHIEUCH cCHIEUCH-HIEUH
  cCHIEUCH-KHIEUKH cCHITUEUMCHIEUCH cCHITUEUMCIEUC cCHITUEUMSIOS cCHITUEUMSSANGCIEUC
  cCHITUEUMSSANGSIOS cCIEUC cCIEUC-IEUNG cFILLER cHIEUH cHIEUH-SIOS cIEUNG cIEUNG-CHIEUCH
  cIEUNG-CIEUC cIEUNG-HIEUH cIEUNG-KIYEOK cIEUNG-MIEUM cIEUNG-PANSIOS cIEUNG-PHIEUPH cIEUNG-PIEUP
  cIEUNG-RIEUL cIEUNG-SIOS cIEUNG-THIEUTH cIEUNG-TIKEUT cKAPYEOUNMIEUM cKAPYEOUNPHIEUPH
  cKAPYEOUNPIEUP cKAPYEOUNRIEUL cKAPYEOUNSSANGPIEUP cKHIEUKH cKIYEOK cKIYEOK-TIKEUT cMIEUM
  cMIEUM-KIYEOK cMIEUM-PIEUP cMIEUM-SIOS cMIEUM-TIKEUT cNIEUN cNIEUN-CIEUC cNIEUN-HIEUH
  cNIEUN-KIYEOK cNIEUN-PIEUP cNIEUN-SIOS cNIEUN-TIKEUT cPANSIOS cPHIEUPH cPHIEUPH-HIEUH
  cPHIEUPH-PIEUP cPIEUP cPIEUP-CHIEUCH cPIEUP-CIEUC cPIEUP-HIEUH cPIEUP-KHIEUKH cPIEUP-KIYEOK
  cPIEUP-NIEUN cPIEUP-PHIEUPH cPIEUP-SIOS cPIEUP-SIOS-CIEUC cPIEUP-SIOS-KIYEOK cPIEUP-SIOS-PIEUP
  cPIEUP-SIOS-THIEUTH cPIEUP-SIOS-TIKEUT cPIEUP-SSANGSIOS cPIEUP-THIEUTH cPIEUP-TIKEUT cRIEUL
  cRIEUL-CIEUC cRIEUL-HIEUH cRIEUL-KAPYEOUNPIEUP cRIEUL-KHIEUKH cRIEUL-KIYEOK cRIEUL-MIEUM
  cRIEUL-NIEUN cRIEUL-PIEUP cRIEUL-SIOS cRIEUL-SSANGKIYEOK cRIEUL-SSANGPIEUP cRIEUL-SSANGTIKEUT
  cRIEUL-TIKEUT cSIOS cSIOS-CHIEUCH cSIOS-CIEUC cSIOS-HIEUH cSIOS-IEUNG cSIOS-KHIEUKH cSIOS-KIYEOK
  cSIOS-MIEUM cSIOS-NIEUN cSIOS-PHIEUPH cSIOS-PIEUP cSIOS-PIEUP-KIYEOK cSIOS-RIEUL cSIOS-SSANGSIOS
  cSIOS-THIEUTH cSIOS-TIKEUT cSSANGCIEUC cSSANGCIEUC-HIEUH cSSANGHIEUH cSSANGIEUNG cSSANGKIYEOK
  cSSANGNIEUN cSSANGPIEUP cSSANGRIEUL cSSANGSIOS cSSANGSIOS-PIEUP cSSANGTHIEUTH cSSANGTIKEUT
  cSSANGYEORINHIEUH cTHIEUTH cTIKEUT cTIKEUT-CIEUC cTIKEUT-KIYEOK cTIKEUT-MIEUM cTIKEUT-PIEUP
  cTIKEUT-RIEUL cTIKEUT-SIOS cYEORINHIEUH cYESIEUNG bDOUBLE DOT TONE MARK bFILLER bJONGSEONG
  CHIEUCH cCIEUC cCIEUC-PIEUP cCIEUC-SSANGPIEUP cHIEUH cHIEUH-MIEUM cHIEUH-NIEUN cHIEUH-PIEUP
  cHIEUH-RIEUL cIEUNG cIEUNG-KHIEUKH cIEUNG-KIYEOK cIEUNG-SSANGKIYEOK cKAPYEOUNMIEUM
  cKAPYEOUNPHIEUPH cKAPYEOUNPIEUP cKAPYEOUNRIEUL cKHIEUKH cKIYEOK cKIYEOK-CHIEUCH cKIYEOK-HIEUH
  cKIYEOK-KHIEUKH cKIYEOK-NIEUN cKIYEOK-PIEUP cKIYEOK-RIEUL cKIYEOK-SIOS cKIYEOK-SIOS-KIYEOK cMIEUM
  cMIEUM-CHIEUCH cMIEUM-CIEUC cMIEUM-HIEUH cMIEUM-KIYEOK cMIEUM-NIEUN cMIEUM-PANSIOS cMIEUM-PIEUP
  cMIEUM-PIEUP-SIOS cMIEUM-RIEUL cMIEUM-SIOS cMIEUM-SSANGNIEUN cMIEUM-SSANGSIOS cNIEUN
  cNIEUN-CHIEUCH cNIEUN-CIEUC cNIEUN-HIEUH cNIEUN-KIYEOK cNIEUN-PANSIOS cNIEUN-RIEUL cNIEUN-SIOS
  cNIEUN-THIEUTH cNIEUN-TIKEUT cPANSIOS cPANSIOS-KAPYEOUNPIEUP cPANSIOS-PIEUP cPHIEUPH
  cPHIEUPH-PIEUP cPHIEUPH-SIOS cPHIEUPH-THIEUTH cPIEUP cPIEUP-CHIEUCH cPIEUP-CIEUC cPIEUP-HIEUH
  cPIEUP-MIEUM cPIEUP-PHIEUPH cPIEUP-RIEUL cPIEUP-RIEUL-PHIEUPH cPIEUP-SIOS cPIEUP-SIOS-TIKEUT
  cPIEUP-TIKEUT cRIEUL cRIEUL-HIEUH cRIEUL-KAPYEOUNPIEUP cRIEUL-KHIEUKH cRIEUL-KIYEOK
  cRIEUL-KIYEOK-HIEUH cRIEUL-KIYEOK-SIOS cRIEUL-MIEUM cRIEUL-MIEUM-HIEUH cRIEUL-MIEUM-KIYEOK
  cRIEUL-MIEUM-SIOS cRIEUL-NIEUN cRIEUL-PANSIOS cRIEUL-PHIEUPH cRIEUL-PIEUP cRIEUL-PIEUP-HIEUH
  cRIEUL-PIEUP-PHIEUPH cRIEUL-PIEUP-SIOS cRIEUL-PIEUP-TIKEUT cRIEUL-SIOS cRIEUL-SSANGKIYEOK
  cRIEUL-SSANGSIOS cRIEUL-THIEUTH cRIEUL-TIKEUT cRIEUL-TIKEUT-HIEUH cRIEUL-YEORINHIEUH
  cRIEUL-YEORINHIEUH-HIEUH cRIEUL-YESIEUNG cSIOS cSIOS-CHIEUCH cSIOS-CIEUC cSIOS-HIEUH
  cSIOS-KAPYEOUNPIEUP cSIOS-KIYEOK cSIOS-MIEUM cSIOS-PANSIOS cSIOS-PIEUP cSIOS-RIEUL cSIOS-THIEUTH
  cSIOS-TIKEUT cSSANGCIEUC cSSANGIEUNG cSSANGKIYEOK cSSANGMIEUM cSSANGNIEUN cSSANGPIEUP cSSANGRIEUL
  cSSANGRIEUL-KHIEUKH cSSANGSIOS cSSANGSIOS-KIYEOK cSSANGSIOS-TIKEUT cSSANGTIKEUT
  cSSANGTIKEUT-PIEUP cSSANGYESIEUNG cTHIEUTH cTIKEUT cTIKEUT-CHIEUCH cTIKEUT-CIEUC cTIKEUT-KIYEOK
  cTIKEUT-PIEUP cTIKEUT-RIEUL cTIKEUT-SIOS cTIKEUT-SIOS-KIYEOK cTIKEUT-THIEUTH cYEORINHIEUH
  cYESIEUNG cYESIEUNG-HIEUH cYESIEUNG-KHIEUKH cYESIEUNG-KIYEOK cYESIEUNG-MIEUM cYESIEUNG-PANSIOS
  cYESIEUNG-SIOS cYESIEUNG-SSANGKIYEOK bJUNGSEONG A cA-EU cA-O cA-U cAE cARAEA cARAEA-A cARAEA-E
  cARAEA-EO cARAEA-I cARAEA-U cE cEO cEO-EU cEO-O cEO-U cEU cEU-A cEU-E cEU-EO cEU-EU cEU-O cEU-U
  cFILLER cI cI-A cI-ARAEA cI-EU cI-I cI-O cI-O-I cI-U cI-YA cI-YA-O cI-YAE cI-YE cI-YEO cI-YO
  cI-YU cO cO-E cO-EO cO-O cO-O-I cO-U cO-YA cO-YAE cO-YE cO-YEO cOE cSSANGARAEA cU cU-A cU-AE
  cU-EO-EU cU-I-I cU-U cU-YE cU-YEO cWA cWAE cWE cWEO cWI cYA cYA-O cYA-U cYA-YO cYAE cYE cYEO
  cYEO-O cYEO-U cYEO-YA cYI cYI-U cYO cYO-A cYO-AE cYO-EO cYO-I cYO-O cYO-YA cYO-YAE cYO-YEO cYU
  cYU-A cYU-AE cYU-E cYU-EO cYU-I cYU-O cYU-U cYU-YE cYU-YEO bLETTER A cAE cARAEA cARAEAE cCHIEUCH
  cCIEUC cE cEO cEU cHIEUH cI cIEUNG cKAPYEOUNMIEUM cKAPYEOUNPHIEUPH cKAPYEOUNPIEUP
  cKAPYEOUNSSANGPIEUP cKHIEUKH cKIYEOK cKIYEOK-SIOS cMIEUM cMIEUM-PANSIOS cMIEUM-PIEUP cMIEUM-SIOS
  cNIEUN cNIEUN-CIEUC cNIEUN-HIEUH cNIEUN-PANSIOS cNIEUN-SIOS cNIEUN-TIKEUT cO cOE cPANSIOS
  cPHIEUPH cPIEUP cPIEUP-CIEUC cPIEUP-KIYEOK cPIEUP-SIOS cPIEUP-SIOS-KIYEOK cPIEUP-SIOS-TIKEUT
  cPIEUP-THIEUTH cPIEUP-TIKEUT cRIEUL cRIEUL-HIEUH cRIEUL-KIYEOK cRIEUL-KIYEOK-SIOS cRIEUL-MIEUM
  cRIEUL-PANSIOS cRIEUL-PHIEUPH cRIEUL-PIEUP cRIEUL-PIEUP-SIOS cRIEUL-SIOS cRIEUL-THIEUTH
  cRIEUL-TIKEUT cRIEUL-YEORINHIEUH cSIOS cSIOS-CIEUC cSIOS-KIYEOK cSIOS-NIEUN cSIOS-PIEUP
  cSIOS-TIKEUT cSSANGCIEUC cSSANGHIEUH cSSANGIEUNG cSSANGKIYEOK cSSANGNIEUN cSSANGPIEUP cSSANGSIOS
  cSSANGTIKEUT cTHIEUTH cTIKEUT cU cWA cWAE cWE cWEO cWI cYA cYAE cYE cYEO cYEORINHIEUH cYESIEUNG
  cYESIEUNG-PANSIOS cYESIEUNG-SIOS cYI cYO cYO-I cYO-YA cYO-YAE cYU cYU-I cYU-YE cYU-YEO bSINGLE
  DOT TONE MARK aHANGZHOU NUMERAL EIGHT cFIVE cFOUR cNINE cONE cSEVEN cSIX cTEN cTHIRTY cTHREE
  cTWENTY cTWO aHANIFI ROHINGYA DIGIT EIGHT dFIVE dFOUR dNINE dONE dSEVEN dSIX dTHREE dTWO dZERO
  cLETTER A dBA dCA dDA dDDA dFA dGA dHA dJA dKA dKHA dKINNA WA eYA dLA dMA dNA dNGA dNYA dPA dRA
  dRRA dSA dSHA dTA dTTA dVA dWA dYA dZA cMARK NA KHONNA dSAKIN cSIGN HARBAHAY dTAHALA dTANA dTASSI
  cVOWEL A dE dI dO dU aHANUNOO LETTER A cBA cDA cGA cHA cI cKA cLA cMA cNA cNGA cPA cRA cSA cTA cU
  cWA cYA bSIGN PAMUDPOD bVOWEL SIGN I dU aHAPPY PERSON RAISING ONE HAND aHARD DISK aHATCHING CHICK
  aHATRAN LETTER ALEPH cAYN cBETH cDALETH-RESH cGIMEL cHE cHETH cKAPH cLAMEDH cMEM cNUN cPE cQOPH
  cSADHE cSAMEKH cSHIN cTAW cTETH cWAW cYODH cZAYN bNUMBER FIVE cONE dHUNDRED cTEN cTWENTY
  aHEADPHONE aHEADSTONE bGRAVEYARD SYMBOL aHEAR-NO-EVIL MONKEY aHEART DECORATION bHANDS bWITH ARROW
  cRIBBON cTIP ON THE LEFT aHEAVY AMPERSAND ORNAMENT bARROW SHAFT WIDTH ONE fHALF fTHIRD eTWO
  THIRDS bASTERISK bBALLOT X bBLACK CURVED DOWNWARDS AND RIGHTWARDS ARROW dUPWARDS AND RIGHTWARDS
  ARROW cHEART bBLACK-FEATHERED NORTH EAST ARROW cRIGHTWARDS ARROW cSOUTH EAST ARROW bCHECK MARK
  bCHEVRON SNOWFLAKE bCIRCLE cWITH CIRCLE INSIDE dSTROKE AND TWO DOTS ABOVE bCIRCLED SALTIRE
  bCONCAVE-POINTED BLACK RIGHTWARDS ARROW bDASHED TRIANGLE-HEADED RIGHTWARDS ARROW bDIVISION SIGN
  bDOLLAR SIGN bDOUBLE COMMA QUOTATION MARK ORNAMENT cTURNED COMMA QUOTATION MARK ORNAMENT
  bDOWNWARDS ARROW WITH EQUILATERAL ARROWHEAD eLARGE EQUILATERAL ARROWHEAD bEIGHT POINTED BLACK
  STAR dPINWHEEL STAR dRECTILINEAR BLACK STAR cSPOKED ASTERISK cTEARDROP-SPOKED PROPELLER ASTERISK
  bEQUALS SIGN bEXCLAMATION MARK ORNAMENT dSYMBOL bFIVE POINTED BLACK STAR cSPOKED ASTERISK bFOUR
  BALLOON-SPOKED ASTERISK bGREEK CROSS bHEART EXCLAMATION MARK ORNAMENT bHORIZONTAL FILL
  bINTERROBANG ORNAMENT bLARGE CIRCLE bLATIN CROSS bLEFT-POINTING ANGLE BRACKET ORNAMENT dQUOTATION
  MARK ORNAMENT bLEFTWARDS ARROW WITH EQUILATERAL ARROWHEAD eLARGE EQUILATERAL ARROWHEAD bLIGATURE
  OPEN ET ORNAMENT bLOW DOUBLE COMMA QUOTATION MARK ORNAMENT cSINGLE COMMA QUOTATION MARK ORNAMENT
  bLOWER RIGHT-SHADOWED WHITE RIGHTWARDS ARROW bMINUS SIGN bMULTIPLICATION X bNORTH EAST ARROW
  dPOINTING BUD eVINE LEAF cWEST POINTING BUD eVINE LEAF bOPEN CENTRE CROSS bOUTLINED BLACK STAR
  bOVAL WITH OVAL INSIDE bPLUS SIGN bRIGHT-POINTING ANGLE BRACKET ORNAMENT dQUOTATION MARK ORNAMENT
  bRIGHTWARDS ARROW dWITH EQUILATERAL ARROWHEAD eLARGE EQUILATERAL ARROWHEAD bROUND-TIPPED
  RIGHTWARDS ARROW bSALTIRE bSANS-SERIF INTERROBANG ORNAMENT bSCRIPT LIGATURE ET ORNAMENT bSINGLE
  COMMA QUOTATION MARK ORNAMENT cTURNED COMMA QUOTATION MARK ORNAMENT bSIX POINTED BLACK STAR
  cSPOKED ASTERISK bSOUTH EAST ARROW dPOINTING BUD eVINE LEAF cWEST POINTING BUD eVINE LEAF
  bSPARKLE bTEARDROP-SHANKED RIGHTWARDS ARROW bTEARDROP-SPOKED ASTERISK cPINWHEEL ASTERISK
  bTRIANGLE-HEADED RIGHTWARDS ARROW bTWELVE POINTED BLACK STAR dPINWHEEL STAR bUPPER RIGHT-SHADOWED
  WHITE RIGHTWARDS ARROW bUPWARDS ARROW WITH EQUILATERAL ARROWHEAD eLARGE EQUILATERAL ARROWHEAD
  bVERTICAL BAR bWEDGE-TAILED RIGHTWARDS ARROW bWHITE CIRCLE cDOWN-POINTING TRIANGLE cSQUARE
  bWIDE-HEADED RIGHTWARDS ARROW aHEBREW ACCENT ATNAH HAFUKH cDARGA cDEHI cETNAHTA cGERESH dMUQDAM
  cGERSHAYIM cILUY cMAHAPAKH cMERKHA dKEFULA cMUNAH cOLE cPASHTA cPAZER cQADMA cQARNEY PARA cREVIA
  cSEGOL cSHALSHELET cTELISHA GEDOLA dQETANA cTEVIR cTIPEHA cYERAH BEN YOMO cYETIV cZAQEF GADOL
  dQATAN cZARQA cZINOR bLETTER ALEF dWITH MAPIQ ePATAH eQAMATS cALTERNATIVE AYIN dPLUS SIGN cAYIN
  cBET dWITH DAGESH eRAFE cDALET dWITH DAGESH cFINAL KAF eWITH DAGESH dMEM dNUN dPE eWITH DAGESH
  dTSADI cGIMEL dWITH DAGESH cHE dWITH MAPIQ cHET cKAF dWITH DAGESH eRAFE cLAMED dWITH DAGESH cMEM
  dWITH DAGESH cNUN dWITH DAGESH cPE dWITH DAGESH eRAFE cQOF dWITH DAGESH cRESH dWITH DAGESH
  cSAMEKH dWITH DAGESH cSHIN dWITH DAGESH fAND SHIN DOT gSIN DOT eSHIN DOT eSIN DOT cTAV dWITH
  DAGESH cTET dWITH DAGESH cTSADI dWITH DAGESH cVAV dWITH DAGESH eHOLAM cWIDE ALEF dDALET dFINAL
  MEM dHE dKAF dLAMED dRESH dTAV cYOD dWITH DAGESH eHIRIQ cZAYIN dWITH DAGESH bLIGATURE ALEF LAMED
  cYIDDISH DOUBLE VAV eYOD dVAV YOD dYOD YOD PATAH bMARK LOWER DOT cMASORA CIRCLE cUPPER DOT bPOINT
  DAGESH OR MAPIQ cHATAF PATAH dQAMATS dSEGOL cHIRIQ cHOLAM dHASER FOR VAV cJUDEO-SPANISH VARIKA
  cMETEG cPATAH cQAMATS dQATAN cQUBUTS cRAFE cSEGOL cSHEVA cSHIN DOT cSIN DOT cTSERE bPUNCTUATION
  GERESH cGERSHAYIM cMAQAF cNUN HAFUKHA cPASEQ cSOF PASUQ bYOD TRIANGLE aHEDGEHOG aHELICOPTER
  aHELLSCHREIBER PAUSE SYMBOL aHELM SYMBOL aHELMET WITH WHITE CROSS aHENTAIGANA LETTER A-1 cA-2
  cA-3 cA-WO cE-1 cE-2 cE-3 cE-4 cE-5 cE-6 cHA-1 cHA-10 cHA-11 cHA-2 cHA-3 cHA-4 cHA-5 cHA-6 cHA-7
  cHA-8 cHA-9 cHE-1 cHE-2 cHE-3 cHE-4 cHE-5 cHE-6 cHE-7 cHI-1 cHI-2 cHI-3 cHI-4 cHI-5 cHI-6 cHI-7
  cHO-1 cHO-2 cHO-3 cHO-4 cHO-5 cHO-6 cHO-7 cHO-8 cHU-1 cHU-2 cHU-3 cI-1 cI-2 cI-3 cI-4 cKA-1
  cKA-10 cKA-11 cKA-2 cKA-3 cKA-4 cKA-5 cKA-6 cKA-7 cKA-8 cKA-9 cKA-KE cKE-1 cKE-2 cKE-3 cKE-4
  cKE-5 cKE-6 cKI-1 cKI-2 cKI-3 cKI-4 cKI-5 cKI-6 cKI-7 cKI-8 cKO-1 cKO-2 cKO-3 cKO-KI cKU-1 cKU-2
  cKU-3 cKU-4 cKU-5 cKU-6 cKU-7 cMA-1 cMA-2 cMA-3 cMA-4 cMA-5 cMA-6 cMA-7 cME-1 cME-2 cME-MA cMI-1
  cMI-2 cMI-3 cMI-4 cMI-5 cMI-6 cMI-7 cMO-1 cMO-2 cMO-3 cMO-4 cMO-5 cMO-6 cMU-1 cMU-2 cMU-3 cMU-4
  cN-MU-MO-1 cN-MU-MO-2 cNA-1 cNA-2 cNA-3 cNA-4 cNA-5 cNA-6 cNA-7 cNA-8 cNA-9 cNE-1 cNE-2 cNE-3
  cNE-4 cNE-5 cNE-6 cNE-KO cNI-1 cNI-2 cNI-3 cNI-4 cNI-5 cNI-6 cNI-7 cNI-TE cNO-1 cNO-2 cNO-3 cNO-4
  cNO-5 cNU-1 cNU-2 cNU-3 cO-1 cO-2 cO-3 cRA-1 cRA-2 cRA-3 cRA-4 cRE-1 cRE-2 cRE-3 cRE-4 cRI-1
  cRI-2 cRI-3 cRI-4 cRI-5 cRI-6 cRI-7 cRO-1 cRO-2 cRO-3 cRO-4 cRO-5 cRO-6 cRU-1 cRU-2 cRU-3 cRU-4
  cRU-5 cRU-6 cSA-1 cSA-2 cSA-3 cSA-4 cSA-5 cSA-6 cSA-7 cSA-8 cSE-1 cSE-2 cSE-3 cSE-4 cSE-5 cSI-1
  cSI-2 cSI-3 cSI-4 cSI-5 cSI-6 cSO-1 cSO-2 cSO-3 cSO-4 cSO-5 cSO-6 cSO-7 cSU-1 cSU-2 cSU-3 cSU-4
  cSU-5 cSU-6 cSU-7 cSU-8 cTA-1 cTA-2 cTA-3 cTA-4 cTE-1 cTE-2 cTE-3 cTE-4 cTE-5 cTE-6 cTE-7 cTE-8
  cTE-9 cTI-1 cTI-2 cTI-3 cTI-4 cTI-5 cTI-6 cTI-7 cTO-1 cTO-2 cTO-3 cTO-4 cTO-5 cTO-6 cTO-RA cTU-1
  cTU-2 cTU-3 cTU-4 cTU-TO cU-1 cU-2 cU-3 cU-4 cU-5 cWA-1 cWA-2 cWA-3 cWA-4 cWA-5 cWE-1 cWE-2 cWE-3
  cWE-4 cWI-1 cWI-2 cWI-3 cWI-4 cWI-5 cWO-1 cWO-2 cWO-3 cWO-4 cWO-5 cWO-6 cWO-7 cYA-1 cYA-2 cYA-3
  cYA-4 cYA-5 cYA-YO cYO-1 cYO-2 cYO-3 cYO-4 cYO-5 cYO-6 cYU-1 cYU-2 cYU-3 cYU-4 aHERB aHERMITIAN
  CONJUGATE MATRIX aHEXAGRAM FOR ABUNDANCE cAFTER COMPLETION cAPPROACH cBEFORE COMPLETION cBITING
  THROUGH cBREAKTHROUGH cCOMING TO MEET cCONFLICT cCONTEMPLATION cDARKENING OF THE LIGHT cDECREASE
  cDELIVERANCE cDEVELOPMENT cDIFFICULTY AT THE BEGINNING cDISPERSION cDURATION cENTHUSIASM
  cFELLOWSHIP cFOLLOWING cGATHERING TOGETHER cGRACE cGREAT POSSESSION dPOWER dPREPONDERANCE dTAMING
  cHOLDING TOGETHER cINCREASE cINFLUENCE cINNER TRUTH cINNOCENCE cLIMITATION cMODESTY cMOUTH
  CORNERS cOBSTRUCTION cOPPOSITION cOPPRESSION cPEACE cPROGRESS cPUSHING UPWARD cRETREAT cRETURN
  cREVOLUTION cSMALL PREPONDERANCE dTAMING cSPLITTING APART cSTANDSTILL cTHE ABYSMAL WATER dARMY
  dAROUSING THUNDER dCAULDRON dCLINGING FIRE dCREATIVE HEAVEN dFAMILY dGENTLE WIND dJOYOUS LAKE
  dKEEPING STILL MOUNTAIN dMARRYING MAIDEN dRECEPTIVE EARTH dWANDERER dWELL cTREADING cWAITING
  cWORK ON THE DECAYED cYOUTHFUL FOLLY aHIBISCUS aHIGH BRIGHTNESS SYMBOL bOCTET PRESET bVOLTAGE
  SIGN aHIGH-HEELED SHOE aHIGH-SPEED TRAIN cWITH BULLET NOSE aHIKING BOOT aHINDU TEMPLE
  aHIPPOPOTAMUS aHIRAGANA DIGRAPH YORI bITERATION MARK bLETTER A cARCHAIC WU dYE cBA cBE cBI cBO
  cBU cDA cDE cDI cDO cDU cE cGA cGE cGI cGO cGU cHA cHE cHI cHO cHU cI cKA cKE cKI cKO cKU cMA cME
  cMI cMO cMU cN cNA cNE cNI cNO cNU cO cPA cPE cPI cPO cPU cRA cRE cRI cRO cRU cSA cSE cSI cSMALL
  A dE dI dKA dKE dO dTU dU dWA dWE dWI dWO dYA dYO dYU cSO cSU cTA cTE cTI cTO cTU cU cVU cWA cWE
  cWI cWO cYA cYO cYU cZA cZE cZI cZO cZU bVOICED ITERATION MARK aHISTORIC SITE aHOCHO aHOLE
  aHOLLOW QUILT SQUARE ORNAMENT eIN BLACK SQUARE aHOMOTHETIC aHONEY POT aHONEYBEE aHOOK aHOP
  aHORIZONTAL BAR bBLACK HEXAGON cOCTAGON bELLIPSIS bLINE EXTENSION bMALE WITH STROKE SIGN bONE
  EIGHTH BLOCK-1358 dBLOCK-2 dBLOCK-3 dBLOCK-4 dBLOCK-5 dBLOCK-6 dBLOCK-7 bSCAN LINE-1 cLINE-3
  cLINE-7 cLINE-9 bTAB KEY bTABULATION cSET cWITH JUSTIFICATION bTRAFFIC LIGHT aHORSE bFACE bRACING
  aHOSPITAL aHOT BEVERAGE bDOG bPEPPER bSPRINGS aHOTEL aHOURGLASS bWITH FLOWING SAND aHOUSE
  bBUILDING bBUILDINGS bWITH GARDEN aHRYVNIA SIGN aHT aHTJ aHTS aHUGGING FACE aHUNDRED POINTS
  SYMBOL aHUSHED FACE aHUT aHYGIEA aHYPHEN bBULLET bWITH DIAERESIS aHYPHEN-MINUS aHYPHENATION POINT
  aHYPODIASTOLE aHYSTERESIS SYMBOL aI LOVE YOU HAND SIGN aICE CREAM bCUBE bHOCKEY STICK AND PUCK
  bSKATE aIDENTICAL TO cAND SLANTED PARALLEL bWITH DOT ABOVE aIDENTIFICATION CARD aIDEOGRAPHIC
  ANNOTATION BOTTOM MARK cEARTH MARK cFIRST MARK cFOUR MARK cFOURTH MARK cHEAVEN MARK cLINKING MARK
  cMAN MARK cMIDDLE MARK cONE MARK cREVERSE MARK cSECOND MARK cTHIRD MARK cTHREE MARK cTOP MARK
  cTWO MARK bCLOSING MARK bCOMMA bDEPARTING TONE MARK bDESCRIPTION CHARACTER ABOVE TO BELOW fMIDDLE
  AND BELOW dFULL SURROUND dLEFT TO MIDDLE AND RIGHT fRIGHT dOVERLAID dSURROUND FROM ABOVE fBELOW
  fLEFT fLOWER LEFT fUPPER LEFT gRIGHT bENTERING TONE MARK bFULL STOP bHALF FILL SPACE bITERATION
  MARK bLEVEL TONE MARK bNUMBER ZERO bRISING TONE MARK bSPACE bTALLY MARK FIVE dFOUR dONE dTHREE
  dTWO bTELEGRAPH LINE FEED SEPARATOR SYMBOL cSYMBOL FOR APRIL eAUGUST eDAY EIGHT fEIGHTEEN fELEVEN
  fFIFTEEN fFIVE fFOUR fFOURTEEN fNINE fNINETEEN fONE fSEVEN fSEVENTEEN fSIX fSIXTEEN fTEN
  fTHIRTEEN fTHIRTY fTHIRTY-ONE fTHREE fTWELVE fTWENTY fTWENTY-EIGHT fTWENTY-FIVE fTWENTY-FOUR
  fTWENTY-NINE fTWENTY-ONE fTWENTY-SEVEN fTWENTY-SIX fTWENTY-THREE fTWENTY-TWO fTWO eDECEMBER
  eFEBRUARY eHOUR EIGHT fEIGHTEEN fELEVEN fFIFTEEN fFIVE fFOUR fFOURTEEN fNINE fNINETEEN fONE
  fSEVEN fSEVENTEEN fSIX fSIXTEEN fTEN fTHIRTEEN fTHREE fTWELVE fTWENTY fTWENTY-FOUR fTWENTY-ONE
  fTWENTY-THREE fTWENTY-TWO fTWO fZERO eJANUARY eJULY eJUNE eMARCH eMAY eNOVEMBER eOCTOBER
  eSEPTEMBER bVARIATION INDICATOR aIMAGE OF cOR APPROXIMATELY EQUAL TO aIMP aIMPERIAL ARAMAIC
  LETTER ALEPH dAYIN dBETH dDALETH dGIMEL dHE dHETH dKAPH dLAMEDH dMEM dNUN dPE dQOPH dRESH dSADHE
  dSAMEKH dSHIN dTAW dTETH dWAW dYODH dZAYIN cNUMBER ONE eHUNDRED eTHOUSAND dTEN eTHOUSAND dTHREE
  dTWENTY dTWO cSECTION SIGN aINBOX TRAY aINCOMING ENVELOPE aINCOMPLETE INFINITY aINCREASE FONT
  SIZE SYMBOL aINCREASES AS aINCREMENT aIND aINDEX bPOINTING AT THE VIEWER aINDIAN RUPEE SIGN
  aINDIC SIYAQ ALTERNATE LAKH MARK cFRACTION ONE HALF eQUARTER dTHREE QUARTERS cLAKH MARK cNUMBER
  ALTERNATE ONE eTEN THOUSAND eTWO dEIGHT eHUNDRED eTHOUSAND dEIGHTY eTHOUSAND dFIFTY eTHOUSAND
  dFIVE eHUNDRED eTHOUSAND dFORTY eTHOUSAND dFOUR eHUNDRED eTHOUSAND dKAROR dKARORAN dLAKH dLAKHAN
  dNINE eHUNDRED eTHOUSAND dNINETY eTHOUSAND dONE eHUNDRED eTHOUSAND dPREFIXED EIGHT eFIVE eFOUR
  eNINE eONE eSEVEN eSIX eTHREE eTWO dSEVEN eHUNDRED eTHOUSAND dSEVENTY eTHOUSAND dSIX eHUNDRED
  eTHOUSAND dSIXTY eTHOUSAND dTEN eTHOUSAND dTHIRTY eTHOUSAND dTHREE eHUNDRED eTHOUSAND dTWENTY
  eTHOUSAND dTWO eHUNDRED eTHOUSAND cPLACEHOLDER cRUPEE MARK aINFINITY bNEGATED WITH VERTICAL BAR
  aINFORMATION DESK PERSON bSEPARATOR FOUR cONE cTHREE cTWO bSOURCE aINHIBIT ARABIC FORM SHAPING
  bSYMMETRIC SWAPPING aINPUT SYMBOL FOR LATIN CAPITAL LETTERS eLETTERS eSMALL LETTERS dNUMBERS
  dSYMBOLS aINSCRIPTIONAL PAHLAVI LETTER ALEPH dBETH dDALETH dGIMEL dHE dHETH dKAPH dLAMEDH
  dMEM-QOPH dNUN dPE dSADHE dSAMEKH dSHIN dTAW dTETH dWAW-AYIN-RESH dYODH dZAYIN cNUMBER FOUR dONE
  eHUNDRED eTHOUSAND dTEN dTHREE dTWENTY dTWO bPARTHIAN LETTER ALEPH dAYIN dBETH dDALETH dGIMEL dHE
  dHETH dKAPH dLAMEDH dMEM dNUN dPE dQOPH dRESH dSADHE dSAMEKH dSHIN dTAW dTETH dWAW dYODH dZAYIN
  cNUMBER FOUR dONE eHUNDRED eTHOUSAND dTEN dTHREE dTWENTY dTWO aINSERTION SYMBOL aINTEGRAL bAROUND
  A POINT OPERATOR bAVERAGE WITH SLASH bEXTENSION bWITH DOUBLE STROKE cINTERSECTION cLEFTWARDS
  ARROW WITH HOOK cOVERBAR cTIMES SIGN cUNDERBAR cUNION aINTERCALATE aINTERIOR PRODUCT aINTERLINEAR
  ANNOTATION ANCHOR cSEPARATOR cTERMINATOR aINTERLOCKED FEMALE AND MALE SIGN aINTERROBANG
  aINTERSECTION bABOVE BAR ABOVE UNION cUNION bBESIDE AND JOINED WITH INTERSECTION bWITH DOT
  cLOGICAL AND cOVERBAR aINVERSE BULLET bCHECK MARK bCHECKER BOARD FILL bDOWNWARDS ARROW WITH TIP
  LEFTWARDS bMEDIUM SHADE bWHITE CIRCLE aINVERTED EXCLAMATION MARK bINTERROBANG bLAZY S bLOW KAVYKA
  dWITH KAVYKA ABOVE bOHM SIGN bPENTAGRAM bQUESTION MARK bUNDERTIE aINVISIBLE PLUS bSEPARATOR
  bTIMES aIZAKAYA LANTERN aJACK-O-LANTERN aJAPANESE BANK SYMBOL bCASTLE bDOLLS bGOBLIN bINDUSTRIAL
  STANDARD SYMBOL bOGRE bPOST OFFICE bSYMBOL FOR BEGINNER aJAR aJAVANESE CONSONANT SIGN CAKRA
  dKERET dPENGKAL bDIGIT EIGHT cFIVE cFOUR cNINE cONE cSEVEN cSIX cTHREE cTWO cZERO bLEFT RERENGGAN
  bLETTER A cAI cBA dMURDA cCA dMURDA cDA dMAHAPRANA cDDA dMAHAPRANA cE cGA dMURDA cHA cI dKAWI cII
  cJA dMAHAPRANA cKA dMURDA dSASAK cLA cMA cNA dMURDA cNGA dLELET eRASWADI cNYA dMURDA cO cPA
  dCEREK dMURDA cRA dAGUNG cSA dMAHAPRANA dMURDA cTA dMURDA cTTA dMAHAPRANA cU cWA cYA bPADA ADEG
  dADEG cANDAP cISEN-ISEN cLINGSA cLUHUR cLUNGSI cMADYA cPANGKAT cPISELEH cTIRTA TUMETES cWINDU
  bPANGKON bPANGRANGKEP bRIGHT RERENGGAN bSIGN CECAK dTELU cLAYAR cPANYANGGA cWIGNYAN bTURNED PADA
  PISELEH bVOWEL SIGN DIRGA MURE dPEPET dSUKU eMENDUT dTALING dTARUNG dTOLONG dWULU eMELIK aJEANS
  aJIGSAW PUZZLE PIECE aJOIN aJOYSTICK aJUGGLING aJUNO aJUPITER aKAABA aKAITHI ABBREVIATION SIGN
  bDANDA bDOUBLE DANDA cSECTION MARK bENUMERATION SIGN bLETTER A cAA cAI cAU cBA cBHA cCA cCHA cDA
  cDDA cDDDHA cDDHA cDHA cE cGA cGHA cHA cI cII cJA cJHA cKA cKHA cLA cMA cNA cNGA cNNA cNYA cO cPA
  cPHA cRA cRHA cSA cSHA cSSA cTA cTHA cTTA cTTHA cU cUU cVA cYA bNUMBER SIGN dABOVE bSECTION MARK
  bSIGN ANUSVARA cCANDRABINDU cNUKTA cVIRAMA cVISARGA bVOWEL SIGN AA dAI dAU dE dI dII dO dU dUU
  dVOCALIC R aKANGAROO aKANGXI RADICAL AGAIN cAND cARRIVE cARROW cAXE cBADGER cBAMBOO cBEAN cBIG
  cBIRD cBITTER cBLACK cBLOOD cBLUE cBOAT cBODY cBOLT OF CLOTH cBONE cBOW cBRANCH cBRISTLE cBRUSH
  cCART cCAULDRON cCAVE cCHILD cCITY cCLAN cCLAW cCLIFF cCLOTHES cCOLOR cCOMPARE cCORPSE cCOVER
  cCOW cDEATH cDEER cDIPPER cDISH cDISTINGUISH cDIVINATION cDO NOT cDOG cDOOR cDOT cDOTTED CLIFF
  dTENT cDOUBLE X cDOWN BOX cDRAGON cDRUM cDRY cEAR cEARTH cEAT cEIGHT cEMBROIDERY cENCLOSURE
  cENTER cEVEN cEVENING cEYE cFACE cFANG cFATHER cFEATHER cFIELD cFIGHT cFIRE cFISH cFLUTE cFLY
  cFOOT cFRAGRANT cFROG cFUR cGATE cGHOST cGO dSLOWLY cGOLD cGRAIN cGRASS cHAIR cHALBERD cHALF TREE
  TRUNK cHAND cHEAD cHEART cHEMP cHIDING ENCLOSURE cHOOK cHORN cHORSE cICE cINCH cINSECT cJADE cJAR
  cKNIFE cLACK cLAME cLEAF cLEATHER cLEEK cLEGS cLID cLIFE cLINE cLONG dSTRIDE cMAN cMEAT cMELON
  cMILLET cMINISTER cMOON cMORNING cMORTAR cMOUND cMOUNTAIN cMOUTH cNET cNOSE cNOT cOLD cONE
  cONESELF cOPEN BOX cOPPOSE cPIG cPLOW cPOWER cPRIVATE cPROFOUND cRAIN cRAP cRAT cRED cRICE cRIGHT
  OPEN BOX cRIVER cROOF cRUN cSACRIFICIAL WINE cSALT cSAY cSCHOLAR cSCRIPT cSEAL cSECOND cSEE cSELF
  cSHEEP cSHELL cSHOOT cSHORT TAILED BIRD dTHREAD cSICKNESS cSILK cSKIN cSLASH cSLAVE cSLICE cSMALL
  cSNOUT cSOUND cSPEAR cSPEECH cSPIRIT cSPOON cSPROUT cSQUARE cSTAND cSTEAM cSTEP cSTONE cSTOP
  cSTOPPING cSUN cSWEET cTABLE cTALL cTANNED LEATHER cTEN cTIGER cTILE cTONGUE cTOOTH cTRACK cTREE
  cTRIPOD cTURBAN cTURTLE cTWO dHANDS cUSE cVALLEY cVILLAGE cWALK dENCLOSURE cWATER cWEAPON cWEST
  cWHEAT cWHITE cWIND cWINE cWOMAN cWORK cWRAP cWRONG cYELLOW aKANNADA AI LENGTH MARK bDIGIT EIGHT
  cFIVE cFOUR cNINE cONE cSEVEN cSIX cTHREE cTWO cZERO bLENGTH MARK bLETTER A cAA cAI cAU cBA cBHA
  cCA cCHA cDA cDDA cDDHA cDHA cE cEE cFA cGA cGHA cHA cI cII cJA cJHA cKA cKHA cLA cLLA cLLLA cMA
  cNA cNAKAARA POLLU cNGA cNNA cNYA cO cOO cPA cPHA cRA cRRA cSA cSHA cSSA cTA cTHA cTTA cTTHA cU
  cUU cVA cVOCALIC L dLL dR dRR cYA bSIGN ANUSVARA cAVAGRAHA cCANDRABINDU cJIHVAMULIYA cNUKTA
  cSIDDHAM cSPACING CANDRABINDU cUPADHMANIYA cVIRAMA cVISARGA bVOWEL SIGN AA dAI dAU dE dEE dI dII
  dO dOO dU dUU dVOCALIC L eLL eR eRR aKATAKANA DIGRAPH KOTO bITERATION MARK bLETTER A cARCHAIC E
  dWU dYE dYI cBA cBE cBI cBO cBU cDA cDE cDI cDO cDU cE cGA cGE cGI cGO cGU cHA cHE cHI cHO cHU cI
  cKA cKE cKI cKO cKU cMA cME cMI cMINNAN NASALIZED TONE-1 eTONE-2 eTONE-3 eTONE-4 eTONE-5 eTONE-7
  eTONE-8 dTONE-2 dTONE-3 dTONE-4 dTONE-5 dTONE-7 dTONE-8 cMO cMU cN cNA cNE cNI cNO cNU cO cPA cPE
  cPI cPO cPU cRA cRE cRI cRO cRU cSA cSE cSI cSMALL A dE dHA dHE dHI dHO dHU dI dKA dKE dKU dMU dN
  dNU dO dRA dRE dRI dRO dRU dSI dSU dTO dTU dU dWA dWE dWI dWO dYA dYO dYU cSO cSU cTA cTE cTI cTO
  cTU cU cVA cVE cVI cVO cVU cWA cWE cWI cWO cYA cYO cYU cZA cZE cZI cZO cZU bMIDDLE DOT bVOICED
  ITERATION MARK aKATAKANA-HIRAGANA DOUBLE HYPHEN bPROLONGED SOUND MARK bSEMI-VOICED SOUND MARK
  bVOICED SOUND MARK aKAYAH LI DIGIT EIGHT dFIVE dFOUR dNINE dONE dSEVEN dSIX dTHREE dTWO dZERO
  cLETTER A dBA dCA dDA dGA dHA dHTA dI dKA dKHA dLA dMA dNA dNGA dNYA dOE dOO dPA dPHA dRA dSA
  dSHA dTA dTHA dVA dWA dYA dZA cSIGN CWI dSHYA cTONE CALYA ePLOPHU dPLOPHU cVOWEL E dEE dO dU dUE
  aKELVIN SIGN aKEY aKEYBOARD bAND MOUSE aKEYCAP TEN aKHAROSHTHI DIGIT FOUR cONE cTHREE cTWO
  bFRACTION ONE HALF bLETTER A cBA cBHA cCA cCHA cDA cDDA cDDHA cDHA cGA cGHA cHA cJA cKA cKHA cKKA
  cLA cMA cNA cNNA cNYA cPA cPHA cRA cSA cSHA cSSA cTA cTHA cTTA cTTHA cTTTA cTTTHA cVA cVHA cYA
  cZA bNUMBER ONE HUNDRED dTHOUSAND cTEN cTWENTY bPUNCTUATION CIRCLE cCRESCENT BAR cDANDA cDOT
  cDOUBLE DANDA cLINES cLOTUS cMANGALAM cSMALL CIRCLE bSIGN ANUSVARA cBAR ABOVE cCAUDA cDOT BELOW
  cDOUBLE RING BELOW cVISARGA bVIRAMA bVOWEL LENGTH MARK cSIGN E dI dO dU dVOCALIC R aKHITAN SMALL
  SCRIPT CHARACTER-18B00 dCHARACTER-18B01 dCHARACTER-18B02 dCHARACTER-18B03 dCHARACTER-18B04
  dCHARACTER-18B05 dCHARACTER-18B06 dCHARACTER-18B07 dCHARACTER-18B08 dCHARACTER-18B09
  dCHARACTER-18B0A dCHARACTER-18B0B dCHARACTER-18B0C dCHARACTER-18B0D dCHARACTER-18B0E
  dCHARACTER-18B0F dCHARACTER-18B10 dCHARACTER-18B11 dCHARACTER-18B12 dCHARACTER-18B13
  dCHARACTER-18B14 dCHARACTER-18B15 dCHARACTER-18B16 dCHARACTER-18B17 dCHARACTER-18B18
  dCHARACTER-18B19 dCHARACTER-18B1A dCHARACTER-18B1B dCHARACTER-18B1C dCHARACTER-18B1D
  dCHARACTER-18B1E dCHARACTER-18B1F dCHARACTER-18B20 dCHARACTER-18B21 dCHARACTER-18B22
  dCHARACTER-18B23 dCHARACTER-18B24 dCHARACTER-18B25 dCHARACTER-18B26 dCHARACTER-18B27
  dCHARACTER-18B28 dCHARACTER-18B29 dCHARACTER-18B2A dCHARACTER-18B2B dCHARACTER-18B2C
  dCHARACTER-18B2D dCHARACTER-18B2E dCHARACTER-18B2F dCHARACTER-18B30 dCHARACTER-18B31
  dCHARACTER-18B32 dCHARACTER-18B33 dCHARACTER-18B34 dCHARACTER-18B35 dCHARACTER-18B36
  dCHARACTER-18B37 dCHARACTER-18B38 dCHARACTER-18B39 dCHARACTER-18B3A dCHARACTER-18B3B
  dCHARACTER-18B3C dCHARACTER-18B3D dCHARACTER-18B3E dCHARACTER-18B3F dCHARACTER-18B40
  dCHARACTER-18B41 dCHARACTER-18B42 dCHARACTER-18B43 dCHARACTER-18B44 dCHARACTER-18B45
  dCHARACTER-18B46 dCHARACTER-18B47 dCHARACTER-18B48 dCHARACTER-18B49 dCHARACTER-18B4A
  dCHARACTER-18B4B dCHARACTER-18B4C dCHARACTER-18B4D dCHARACTER-18B4E dCHARACTER-18B4F
  dCHARACTER-18B50 dCHARACTER-18B51 dCHARACTER-18B52 dCHARACTER-18B53 dCHARACTER-18B54
  dCHARACTER-18B55 dCHARACTER-18B56 dCHARACTER-18B57 dCHARACTER-18B58 dCHARACTER-18B59
  dCHARACTER-18B5A dCHARACTER-18B5B dCHARACTER-18B5C dCHARACTER-18B5D dCHARACTER-18B5E
  dCHARACTER-18B5F dCHARACTER-18B60 dCHARACTER-18B61 dCHARACTER-18B62 dCHARACTER-18B63
  dCHARACTER-18B64 dCHARACTER-18B65 dCHARACTER-18B66 dCHARACTER-18B67 dCHARACTER-18B68
  dCHARACTER-18B69 dCHARACTER-18B6A dCHARACTER-18B6B dCHARACTER-18B6C dCHARACTER-18B6D
  dCHARACTER-18B6E dCHARACTER-18B6F dCHARACTER-18B70 dCHARACTER-18B71 dCHARACTER-18B72
  dCHARACTER-18B73 dCHARACTER-18B74 dCHARACTER-18B75 dCHARACTER-18B76 dCHARACTER-18B77
  dCHARACTER-18B78 dCHARACTER-18B79 dCHARACTER-18B7A dCHARACTER-18B7B dCHARACTER-18B7C
  dCHARACTER-18B7D dCHARACTER-18B7E dCHARACTER-18B7F dCHARACTER-18B80 dCHARACTER-18B81
  dCHARACTER-18B82 dCHARACTER-18B83 dCHARACTER-18B84 dCHARACTER-18B85 dCHARACTER-18B86
  dCHARACTER-18B87 dCHARACTER-18B88 dCHARACTER-18B89 dCHARACTER-18B8A dCHARACTER-18B8B
  dCHARACTER-18B8C dCHARACTER-18B8D dCHARACTER-18B8E dCHARACTER-18B8F dCHARACTER-18B90
  dCHARACTER-18B91 dCHARACTER-18B92 dCHARACTER-18B93 dCHARACTER-18B94 dCHARACTER-18B95
  dCHARACTER-18B96 dCHARACTER-18B97 dCHARACTER-18B98 dCHARACTER-18B99 dCHARACTER-18B9A
  dCHARACTER-18B9B dCHARACTER-18B9C dCHARACTER-18B9D dCHARACTER-18B9E dCHARACTER-18B9F
  dCHARACTER-18BA0 dCHARACTER-18BA1 dCHARACTER-18BA2 dCHARACTER-18BA3 dCHARACTER-18BA4
  dCHARACTER-18BA5 dCHARACTER-18BA6 dCHARACTER-18BA7 dCHARACTER-18BA8 dCHARACTER-18BA9
  dCHARACTER-18BAA dCHARACTER-18BAB dCHARACTER-18BAC dCHARACTER-18BAD dCHARACTER-18BAE
  dCHARACTER-18BAF dCHARACTER-18BB0 dCHARACTER-18BB1 dCHARACTER-18BB2 dCHARACTER-18BB3
  dCHARACTER-18BB4 dCHARACTER-18BB5 dCHARACTER-18BB6 dCHARACTER-18BB7 dCHARACTER-18BB8
  dCHARACTER-18BB9 dCHARACTER-18BBA dCHARACTER-18BBB dCHARACTER-18BBC dCHARACTER-18BBD
  dCHARACTER-18BBE dCHARACTER-18BBF dCHARACTER-18BC0 dCHARACTER-18BC1 dCHARACTER-18BC2
  dCHARACTER-18BC3 dCHARACTER-18BC4 dCHARACTER-18BC5 dCHARACTER-18BC6 dCHARACTER-18BC7
  dCHARACTER-18BC8 dCHARACTER-18BC9 dCHARACTER-18BCA dCHARACTER-18BCB dCHARACTER-18BCC
  dCHARACTER-18BCD dCHARACTER-18BCE dCHARACTER-18BCF dCHARACTER-18BD0 dCHARACTER-18BD1
  dCHARACTER-18BD2 dCHARACTER-18BD3 dCHARACTER-18BD4 dCHARACTER-18BD5 dCHARACTER-18BD6
  dCHARACTER-18BD7 dCHARACTER-18BD8 dCHARACTER-18BD9 dCHARACTER-18BDA dCHARACTER-18BDB
  dCHARACTER-18BDC dCHARACTER-18BDD dCHARACTER-18BDE dCHARACTER-18BDF dCHARACTER-18BE0
  dCHARACTER-18BE1 dCHARACTER-18BE2 dCHARACTER-18BE3 dCHARACTER-18BE4 dCHARACTER-18BE5
  dCHARACTER-18BE6 dCHARACTER-18BE7 dCHARACTER-18BE8 dCHARACTER-18BE9 dCHARACTER-18BEA
  dCHARACTER-18BEB dCHARACTER-18BEC dCHARACTER-18BED dCHARACTER-18BEE dCHARACTER-18BEF
  dCHARACTER-18BF0 dCHARACTER-18BF1 dCHARACTER-18BF2 dCHARACTER-18BF3 dCHARACTER-18BF4
  dCHARACTER-18BF5 dCHARACTER-18BF6 dCHARACTER-18BF7 dCHARACTER-18BF8 dCHARACTER-18BF9
  dCHARACTER-18BFA dCHARACTER-18BFB dCHARACTER-18BFC dCHARACTER-18BFD dCHARACTER-18BFE
  dCHARACTER-18BFF dCHARACTER-18C00 dCHARACTER-18C01 dCHARACTER-18C02 dCHARACTER-18C03
  dCHARACTER-18C04 dCHARACTER-18C05 dCHARACTER-18C06 dCHARACTER-18C07 dCHARACTER-18C08
  dCHARACTER-18C09 dCHARACTER-18C0A dCHARACTER-18C0B dCHARACTER-18C0C dCHARACTER-18C0D
  dCHARACTER-18C0E dCHARACTER-18C0F dCHARACTER-18C10 dCHARACTER-18C11 dCHARACTER-18C12
  dCHARACTER-18C13 dCHARACTER-18C14 dCHARACTER-18C15 dCHARACTER-18C16 dCHARACTER-18C17
  dCHARACTER-18C18 dCHARACTER-18C19 dCHARACTER-18C1A dCHARACTER-18C1B dCHARACTER-18C1C
  dCHARACTER-18C1D dCHARACTER-18C1E dCHARACTER-18C1F dCHARACTER-18C20 dCHARACTER-18C21
  dCHARACTER-18C22 dCHARACTER-18C23 dCHARACTER-18C24 dCHARACTER-18C25 dCHARACTER-18C26
  dCHARACTER-18C27 dCHARACTER-18C28 dCHARACTER-18C29 dCHARACTER-18C2A dCHARACTER-18C2B
  dCHARACTER-18C2C dCHARACTER-18C2D dCHARACTER-18C2E dCHARACTER-18C2F dCHARACTER-18C30
  dCHARACTER-18C31 dCHARACTER-18C32 dCHARACTER-18C33 dCHARACTER-18C34 dCHARACTER-18C35
  dCHARACTER-18C36 dCHARACTER-18C37 dCHARACTER-18C38 dCHARACTER-18C39 dCHARACTER-18C3A
  dCHARACTER-18C3B dCHARACTER-18C3C dCHARACTER-18C3D dCHARACTER-18C3E dCHARACTER-18C3F
  dCHARACTER-18C40 dCHARACTER-18C41 dCHARACTER-18C42 dCHARACTER-18C43 dCHARACTER-18C44
  dCHARACTER-18C45 dCHARACTER-18C46 dCHARACTER-18C47 dCHARACTER-18C48 dCHARACTER-18C49
  dCHARACTER-18C4A dCHARACTER-18C4B dCHARACTER-18C4C dCHARACTER-18C4D dCHARACTER-18C4E
  dCHARACTER-18C4F dCHARACTER-18C50 dCHARACTER-18C51 dCHARACTER-18C52 dCHARACTER-18C53
  dCHARACTER-18C54 dCHARACTER-18C55 dCHARACTER-18C56 dCHARACTER-18C57 dCHARACTER-18C58
  dCHARACTER-18C59 dCHARACTER-18C5A dCHARACTER-18C5B dCHARACTER-18C5C dCHARACTER-18C5D
  dCHARACTER-18C5E dCHARACTER-18C5F dCHARACTER-18C60 dCHARACTER-18C61 dCHARACTER-18C62
  dCHARACTER-18C63 dCHARACTER-18C64 dCHARACTER-18C65 dCHARACTER-18C66 dCHARACTER-18C67
  dCHARACTER-18C68 dCHARACTER-18C69 dCHARACTER-18C6A dCHARACTER-18C6B dCHARACTER-18C6C
  dCHARACTER-18C6D dCHARACTER-18C6E dCHARACTER-18C6F dCHARACTER-18C70 dCHARACTER-18C71
  dCHARACTER-18C72 dCHARACTER-18C73 dCHARACTER-18C74 dCHARACTER-18C75 dCHARACTER-18C76
  dCHARACTER-18C77 dCHARACTER-18C78 dCHARACTER-18C79 dCHARACTER-18C7A dCHARACTER-18C7B
  dCHARACTER-18C7C dCHARACTER-18C7D dCHARACTER-18C7E dCHARACTER-18C7F dCHARACTER-18C80
  dCHARACTER-18C81 dCHARACTER-18C82 dCHARACTER-18C83 dCHARACTER-18C84 dCHARACTER-18C85
  dCHARACTER-18C86 dCHARACTER-18C87 dCHARACTER-18C88 dCHARACTER-18C89 dCHARACTER-18C8A
  dCHARACTER-18C8B dCHARACTER-18C8C dCHARACTER-18C8D dCHARACTER-18C8E dCHARACTER-18C8F
  dCHARACTER-18C90 dCHARACTER-18C91 dCHARACTER-18C92 dCHARACTER-18C93 dCHARACTER-18C94
  dCHARACTER-18C95 dCHARACTER-18C96 dCHARACTER-18C97 dCHARACTER-18C98 dCHARACTER-18C99
  dCHARACTER-18C9A dCHARACTER-18C9B dCHARACTER-18C9C dCHARACTER-18C9D dCHARACTER-18C9E
  dCHARACTER-18C9F dCHARACTER-18CA0 dCHARACTER-18CA1 dCHARACTER-18CA2 dCHARACTER-18CA3
  dCHARACTER-18CA4 dCHARACTER-18CA5 dCHARACTER-18CA6 dCHARACTER-18CA7 dCHARACTER-18CA8
  dCHARACTER-18CA9 dCHARACTER-18CAA dCHARACTER-18CAB dCHARACTER-18CAC dCHARACTER-18CAD
  dCHARACTER-18CAE dCHARACTER-18CAF dCHARACTER-18CB0 dCHARACTER-18CB1 dCHARACTER-18CB2
  dCHARACTER-18CB3 dCHARACTER-18CB4 dCHARACTER-18CB5 dCHARACTER-18CB6 dCHARACTER-18CB7
  dCHARACTER-18CB8 dCHARACTER-18CB9 dCHARACTER-18CBA dCHARACTER-18CBB dCHARACTER-18CBC
  dCHARACTER-18CBD dCHARACTER-18CBE dCHARACTER-18CBF dCHARACTER-18CC0 dCHARACTER-18CC1
  dCHARACTER-18CC2 dCHARACTER-18CC3 dCHARACTER-18CC4 dCHARACTER-18CC5 dCHARACTER-18CC6
  dCHARACTER-18CC7 dCHARACTER-18CC8 dCHARACTER-18CC9 dCHARACTER-18CCA dCHARACTER-18CCB
  dCHARACTER-18CCC dCHARACTER-18CCD dCHARACTER-18CCE dCHARACTER-18CCF dCHARACTER-18CD0
  dCHARACTER-18CD1 dCHARACTER-18CD2 dCHARACTER-18CD3 dCHARACTER-18CD4 dCHARACTER-18CD5 dFILLER
  aKHMER CURRENCY SYMBOL RIEL bDIGIT EIGHT cFIVE cFOUR cNINE cONE cSEVEN cSIX cTHREE cTWO cZERO
  bINDEPENDENT VOWEL LY dLYY dQAA dQAI dQAQ dQAU dQE dQI dQII dQOO TYPE ONE fTWO dQU dQUK dQUU
  dQUUV dRY dRYY bLETTER BA cCA cCHA cCHO cCO cDA cDO cHA cKA cKHA cKHO cKO cLA cLO cMO cNGO cNNO
  cNO cNYO cPHA cPHO cPO cQA cRO cSA cSHA cSSO cTA cTHA cTHO cTO cTTHA cTTHO cVO cYO bSIGN AHSDA
  cATTHACAN cAVAKRAHASANYA cBANTOC cBARIYOOSAN cBATHAMASAT cBEYYAL cCAMNUC PII KUUH cCOENG cKAKABAT
  cKHAN cKOOMUUT cLEK TOO cMUUSIKATOAN cNIKAHIT cPHNAEK MUAN cREAHMUK cROBAT cSAMYOK SANNYA
  cTOANDAKHIAT cTRIISAP cVIRIAM cYUUKALEAPINTU bSYMBOL BEI KOET dROC cBUON KOET dROC cDAP KOET dROC
  cDAP-BEI KOET dROC cDAP-BUON KOET dROC cDAP-MUOY KOET dROC cDAP-PII KOET dROC cDAP-PRAM KOET dROC
  cLEK ATTAK BEI eBUON eMUOY ePII ePRAM ePRAM-BEI ePRAM-BUON ePRAM-MUOY ePRAM-PII eSON cMUOY KOET
  dROC cPATHAMASAT cPII KOET dROC cPRAM KOET dROC cPRAM-BEI KOET dROC cPRAM-BUON KOET dROC
  cPRAM-MUOY KOET dROC cPRAM-PII KOET dROC cTUTEYASAT bVOWEL INHERENT AA dAQ cSIGN AA dAE dAI dAU
  dE dI dIE dII dOE dOO dU dUA dUU dY dYA dYY aKHOJKI ABBREVIATION SIGN bDANDA bDOUBLE DANDA
  cSECTION MARK bLETTER A cAA cAI cAU cBA cBBA cBHA cCA cCHA cDA cDDA cDDDA cDDHA cDHA cE cGA cGGA
  cGHA cHA cI cJA cJJA cKA cKHA cLA cLLA cMA cNA cNGA cNNA cNYA cO cPA cPHA cRA cSA cTA cTHA cTTA
  cTTHA cU cVA cYA bSECTION MARK bSIGN ANUSVARA cNUKTA cSHADDA cSUKUN cVIRAMA bVOWEL SIGN AA dAI
  dAU dE dI dII dO dU bWORD SEPARATOR aKHUDAWADI DIGIT EIGHT cFIVE cFOUR cNINE cONE cSEVEN cSIX
  cTHREE cTWO cZERO bLETTER A cAA cAI cAU cBA cBBA cBHA cCA cCHA cDA cDDA cDDDA cDDHA cDHA cE cGA
  cGGA cGHA cHA cI cII cJA cJHA cJJA cKA cKHA cLA cMA cNA cNGA cNNA cNYA cO cPA cPHA cRA cRRA cSA
  cSHA cTA cTHA cTTA cTTHA cU cUU cVA cYA bSIGN ANUSVARA cNUKTA cVIRAMA bVOWEL SIGN AA dAI dAU dE
  dI dII dO dU dUU aKIMONO aKIP SIGN aKISS bMARK aKISSING CAT FACE WITH CLOSED EYES bFACE cWITH
  CLOSED EYES dSMILING EYES aKITE aKIWIFRUIT aKNEELING PERSON aKNOT aKOALA aKOREAN STANDARD SYMBOL
  aKRONOS aL B BAR SYMBOL aLAB COAT aLABEL aLACROSSE STICK AND BALL aLADDER aLADY BEETLE aLANGUAGE
  TAG aLAO CANCELLATION MARK bDIGIT EIGHT cFIVE cFOUR cNINE cONE cSEVEN cSIX cTHREE cTWO cZERO
  bELLIPSIS bHO MO cNO bKO LA bLETTER BO cCO cDO cFO FAY dFON dSUNG dTAM cHO SUNG dTAM cKHMU GO
  dNYO cKHO SUNG dTAM cKO cLO dLING dLOOT cMO cNGO cNO cNYO cO cPALI BHA dCHA dDDA dDDHA dDHA dGHA
  dJHA dLLA dNNA dNYA dTTA dTTHA cPHO SUNG dTAM cPO cRO cSANSKRIT SHA dSSA cSO SUNG dTAM cTHO SUNG
  dTAM cTO cWO cYO bNIGGAHITA bSEMIVOWEL SIGN LO dNYO bSIGN PALI VIRAMA bTONE MAI CATAWA dEK dTHO
  dTI bVOWEL SIGN A dAA dAI dAM dAY dE dEI dI dII dMAI KAN eKON dO dU dUU dY dYY aLARGE BLUE CIRCLE
  cDIAMOND cSQUARE bBROWN CIRCLE cSQUARE bCIRCLE bDOWN TACK bGREEN CIRCLE cSQUARE bLEFT TRIANGLE
  OPERATOR bONE DOT OVER TWO DOTS PUNCTUATION cRING OVER TWO RINGS PUNCTUATION bORANGE CIRCLE
  cDIAMOND cSQUARE bPURPLE CIRCLE cSQUARE bRED CIRCLE cSQUARE bTRIPLE VERTICAL BAR OPERATOR bTWO
  DOTS OVER ONE DOT PUNCTUATION cRINGS OVER ONE RING PUNCTUATION bUP TACK bYELLOW CIRCLE cSQUARE
  aLARGER THAN cOR EQUAL TO aLARI SIGN aLAST QUARTER MOON dSYMBOL dWITH FACE aLATIN CAPITAL LETTER
  A eWITH ACUTE fBREVE gAND ACUTE hDOT BELOW hGRAVE hHOOK ABOVE hTILDE fCARON fCIRCUMFLEX gAND
  ACUTE hDOT BELOW hGRAVE hHOOK ABOVE hTILDE fDIAERESIS gAND MACRON fDOT ABOVE hAND MACRON gBELOW
  fDOUBLE GRAVE fGRAVE fHOOK ABOVE fINVERTED BREVE fMACRON fOGONEK fRING ABOVE hAND ACUTE gBELOW
  fSTROKE fTILDE dAA dAE eWITH ACUTE fMACRON dAFRICAN D dALPHA dANGLICANA W dAO dAU dAV eWITH
  HORIZONTAL BAR dAY dB eWITH DOT ABOVE gBELOW fFLOURISH fHOOK fLINE BELOW fSTROKE fTOPBAR dBETA
  dBROKEN L dC eWITH ACUTE fBAR fCARON fCEDILLA gAND ACUTE fCIRCUMFLEX fDOT ABOVE fHOOK fPALATAL
  HOOK fSTROKE dCHI dCLOSED INSULAR G dCON dCUATRILLO eWITH COMMA dD eWITH CARON fCEDILLA
  fCIRCUMFLEX BELOW fDOT ABOVE gBELOW fHOOK fLINE BELOW fSHORT STROKE OVERLAY fSMALL LETTER Z iWITH
  CARON fSTROKE fTOPBAR dDZ eWITH CARON dE eWITH ACUTE fBREVE fCARON fCEDILLA gAND BREVE
  fCIRCUMFLEX gAND ACUTE hDOT BELOW hGRAVE hHOOK ABOVE hTILDE gBELOW fDIAERESIS fDOT ABOVE gBELOW
  fDOUBLE GRAVE fGRAVE fHOOK ABOVE fINVERTED BREVE fMACRON gAND ACUTE hGRAVE fOGONEK fSTROKE fTILDE
  gBELOW dEGYPTOLOGICAL AIN eALEF dENG dESH dET dETH dEZH eREVERSED eWITH CARON dF eWITH DOT ABOVE
  fHOOK fSTROKE dG eWITH ACUTE fBREVE fCARON fCEDILLA fCIRCUMFLEX fDOT ABOVE fHOOK fMACRON fOBLIQUE
  STROKE fSTROKE dGAMMA dGHA dGLOTTAL A eI eSTOP eU dH eWITH BREVE BELOW fCARON fCEDILLA
  fCIRCUMFLEX fDESCENDER fDIAERESIS fDOT ABOVE gBELOW fHOOK fSTROKE dHALF H dHENG dHWAIR dI eWITH
  ACUTE fBREVE fCARON fCIRCUMFLEX fDIAERESIS gAND ACUTE fDOT ABOVE gBELOW fDOUBLE GRAVE fGRAVE
  fHOOK ABOVE fINVERTED BREVE fMACRON fOGONEK fSTROKE fTILDE gBELOW dINSULAR D eF eG eR eS eT dIOTA
  dIS dJ eWITH CIRCUMFLEX fCROSSED-TAIL fSTROKE dK eWITH ACUTE fCARON fCEDILLA fDESCENDER fDIAGONAL
  STROKE fDOT BELOW fHOOK fLINE BELOW fOBLIQUE STROKE fSTROKE gAND DIAGONAL STROKE dL eWITH ACUTE
  fBAR fBELT fCARON fCEDILLA fCIRCUMFLEX BELOW fDOT BELOW hAND MACRON fDOUBLE BAR fHIGH STROKE
  fLINE BELOW fMIDDLE DOT gTILDE fSMALL LETTER J fSTROKE dLJ dM eWITH ACUTE fDOT ABOVE gBELOW fHOOK
  dMIDDLE SCOTS S dMIDDLE-WELSH LL eV dN eWITH ACUTE fCARON fCEDILLA fCIRCUMFLEX BELOW fDESCENDER
  fDOT ABOVE gBELOW fGRAVE fLEFT HOOK fLINE BELOW fLONG RIGHT LEG fOBLIQUE STROKE fSMALL LETTER J
  fTILDE dNJ dO eWITH ACUTE fBREVE fCARON fCIRCUMFLEX gAND ACUTE hDOT BELOW hGRAVE hHOOK ABOVE
  hTILDE fDIAERESIS gAND MACRON fDOT ABOVE hAND MACRON gBELOW fDOUBLE ACUTE gGRAVE fGRAVE fHOOK
  ABOVE fHORN gAND ACUTE hDOT BELOW hGRAVE hHOOK ABOVE hTILDE fINVERTED BREVE fLONG STROKE OVERLAY
  fLOOP fMACRON gAND ACUTE hGRAVE fMIDDLE TILDE fOGONEK gAND MACRON fSTROKE gAND ACUTE fTILDE gAND
  ACUTE hDIAERESIS hMACRON dOI dOLD POLISH O dOMEGA dOO dOPEN E eO dOU dP eWITH ACUTE fDOT ABOVE
  fFLOURISH fHOOK fSQUIRREL TAIL fSTROKE gTHROUGH DESCENDER dQ eWITH DIAGONAL STROKE fSTROKE
  THROUGH DESCENDER dR eROTUNDA eWITH ACUTE fCARON fCEDILLA fDOT ABOVE gBELOW hAND MACRON fDOUBLE
  GRAVE fINVERTED BREVE fLINE BELOW fOBLIQUE STROKE fSTROKE fTAIL dREVERSED C WITH DOT eE eHALF H
  eOPEN E dRUM ROTUNDA dS eWITH ACUTE gAND DOT ABOVE fCARON gAND DOT ABOVE fCEDILLA fCIRCUMFLEX
  fCOMMA BELOW fDOT ABOVE gBELOW hAND DOT ABOVE fHOOK fOBLIQUE STROKE fSHORT STROKE OVERLAY fSWASH
  TAIL dSALTILLO dSCHWA dSCRIPT G dSHARP S dSIGMOID S dSMALL CAPITAL I eQ WITH HOOK TAIL dT eWITH
  CARON fCEDILLA fCIRCUMFLEX BELOW fCOMMA BELOW fDIAGONAL STROKE fDOT ABOVE gBELOW fHOOK fLINE
  BELOW fRETROFLEX HOOK fSTROKE dTHORN eWITH STROKE gTHROUGH DESCENDER dTONE FIVE eSIX eTWO
  dTRESILLO dTURNED A eALPHA eH eINSULAR G eK eL eM eT eV dTZ dU eBAR eWITH ACUTE fBREVE fCARON
  fCIRCUMFLEX gBELOW fDIAERESIS gAND ACUTE hCARON hGRAVE hMACRON gBELOW fDOT BELOW fDOUBLE ACUTE
  gGRAVE fGRAVE fHOOK ABOVE fHORN gAND ACUTE hDOT BELOW hGRAVE hHOOK ABOVE hTILDE fINVERTED BREVE
  fMACRON gAND DIAERESIS fOGONEK fRING ABOVE fSTROKE fTILDE gAND ACUTE gBELOW dUPSILON dV eWITH
  DIAGONAL STROKE fDOT BELOW fHOOK fTILDE dVEND dVISIGOTHIC Z dVOLAPUK AE eOE eUE dVY dW eWITH
  ACUTE fCIRCUMFLEX fDIAERESIS fDOT ABOVE gBELOW fGRAVE fHOOK dWYNN dX eWITH DIAERESIS fDOT ABOVE
  dY eWITH ACUTE fCIRCUMFLEX fDIAERESIS fDOT ABOVE gBELOW fGRAVE fHOOK gABOVE fLOOP fMACRON fSTROKE
  fTILDE dYOGH dZ eWITH ACUTE fCARON fCIRCUMFLEX fDESCENDER fDOT ABOVE gBELOW fHOOK fLINE BELOW
  fPALATAL HOOK fSTROKE fSWASH TAIL cLIGATURE IJ dOE bCROSS bEPIGRAPHIC LETTER ARCHAIC M dI LONGA
  dINVERTED M dREVERSED F eP dSIDEWAYS I bLETTER AIN cALVEOLAR CLICK cBIDENTAL PERCUSSIVE cBILABIAL
  CLICK dPERCUSSIVE cDENTAL CLICK cGLOTTAL STOP eWITH STROKE cINVERTED GLOTTAL STOP fWITH CURL
  gSTROKE cLATERAL CLICK cPHARYNGEAL VOICED FRICATIVE cRETROFLEX CLICK eWITH RETROFLEX HOOK
  cREVERSED ESH LOOP dGLOTTAL STOP WITH STROKE cSINOLOGICAL DOT cSMALL CAPITAL A eAE eB eBARRED B
  eC eD eE eETH eEZH eF eG fWITH HOOK eH eI eINVERTED R eJ eK eL fWITH BELT gSTROKE eM eN eO eOE
  eOPEN O eOU eP eQ eR fWITH RIGHT LEG eREVERSED N fR eRUM eS eT eTURNED E fG fK fM fR eU eV eW eY
  eZ cSTRETCHED C eWITH CURL cTWO WITH STROKE cVOICED LARYNGEAL SPIRANT cWYNN cYR bSMALL CAPITAL
  LETTER I WITH STROKE eU WITH STROKE cLETTER A eREVERSED-SCHWA eWITH ACUTE fBREVE gAND ACUTE hDOT
  BELOW hGRAVE hHOOK ABOVE hTILDE fCARON fCIRCUMFLEX gAND ACUTE hDOT BELOW hGRAVE hHOOK ABOVE
  hTILDE fDIAERESIS gAND MACRON fDOT ABOVE hAND MACRON gBELOW fDOUBLE GRAVE fGRAVE fHOOK ABOVE
  fINVERTED BREVE fMACRON fOGONEK fRETROFLEX HOOK fRIGHT HALF RING fRING ABOVE hAND ACUTE gBELOW
  fSTROKE fTILDE dAA dAE eWITH ACUTE fMACRON dALPHA eWITH RETROFLEX HOOK dANGLICANA W dAO dAU dAV
  eWITH HORIZONTAL BAR dAY dB eWITH DOT ABOVE gBELOW fFLOURISH fHOOK fLINE BELOW fMIDDLE TILDE
  fPALATAL HOOK fSTROKE fTOPBAR dBARRED ALPHA eE eO dBASELINE ESH dBETA dBLACKLETTER E eO fWITH
  STROKE dBOTTOM HALF O dBROKEN L dC eWITH ACUTE fBAR fCARON fCEDILLA gAND ACUTE fCIRCUMFLEX fCURL
  fDOT ABOVE fHOOK fPALATAL HOOK fRETROFLEX HOOK fSTROKE dCHI eWITH LOW LEFT SERIF gRIGHT RING
  dCLOSED INSULAR G eOMEGA eOPEN E eREVERSED OPEN E dCON dCUATRILLO eWITH COMMA dD eWITH CARON
  fCEDILLA fCIRCUMFLEX BELOW fCURL fDOT ABOVE gBELOW fHOOK gAND TAIL fLINE BELOW fMIDDLE TILDE
  fPALATAL HOOK fSHORT STROKE OVERLAY fSTROKE fTAIL fTOPBAR dDB DIGRAPH dDELTA dDEZH DIGRAPH fWITH
  PALATAL HOOK gRETROFLEX HOOK dDOTLESS I eJ fWITH STROKE hAND HOOK dDOUBLE R fWITH CROSSED-TAIL
  eTHORN eWYNN dDUM dDZ eDIGRAPH fWITH CURL gRETROFLEX HOOK eWITH CARON dE eWITH ACUTE fBREVE
  fCARON fCEDILLA gAND BREVE fCIRCUMFLEX gAND ACUTE hDOT BELOW hGRAVE hHOOK ABOVE hTILDE gBELOW
  fDIAERESIS fDOT ABOVE gBELOW fDOUBLE GRAVE fFLOURISH fGRAVE fHOOK ABOVE fINVERTED BREVE fMACRON
  gAND ACUTE hGRAVE fNOTCH fOGONEK fRETROFLEX HOOK fSTROKE fTILDE gBELOW dEGYPTOLOGICAL AIN eALEF
  dENG eWITH CROSSED-TAIL fPALATAL HOOK dESH eWITH CURL fDOUBLE BAR hAND CURL fPALATAL HOOK
  fRETROFLEX HOOK dET dETH dEZH eREVERSED eWITH CARON fCURL fPALATAL HOOK fRETROFLEX HOOK fTAIL dF
  eWITH DOT ABOVE fHOOK fMIDDLE TILDE fPALATAL HOOK fSTROKE dFENG DIGRAPH fWITH TRILL dG eWITH
  ACUTE fBREVE fCARON fCEDILLA fCIRCUMFLEX fDOT ABOVE fHOOK fMACRON fOBLIQUE STROKE fPALATAL HOOK
  fSTROKE dGAMMA dGHA dGLOTTAL A eI eSTOP eU dH eWITH BREVE BELOW fCARON fCEDILLA fCIRCUMFLEX
  fDESCENDER fDIAERESIS fDOT ABOVE gBELOW fHOOK fLINE BELOW fPALATAL HOOK fSTROKE dHALF H dHENG
  eWITH HOOK dHV dI eWITH ACUTE fBREVE fCARON fCIRCUMFLEX fDIAERESIS gAND ACUTE fDOT BELOW fDOUBLE
  GRAVE fGRAVE fHOOK ABOVE fINVERTED BREVE fMACRON fOGONEK fRETROFLEX HOOK fSTROKE gAND RETROFLEX
  HOOK fTILDE gBELOW dINSULAR D eF eG eR eS eT dINVERTED ALPHA eOE dIOTA eWITH STROKE dIOTIFIED E
  dIS dJ eWITH CARON fCIRCUMFLEX fCROSSED-TAIL fSTROKE dK eWITH ACUTE fCARON fCEDILLA fDESCENDER
  fDIAGONAL STROKE fDOT BELOW fHOOK fLINE BELOW fOBLIQUE STROKE fPALATAL HOOK fSTROKE gAND DIAGONAL
  STROKE dKRA dL eWITH ACUTE fBAR fBELT gAND PALATAL HOOK fCARON fCEDILLA fCIRCUMFLEX BELOW fCURL
  fDOT BELOW hAND MACRON fDOUBLE BAR gMIDDLE TILDE fFISHHOOK fHIGH STROKE fINVERTED LAZY S fLINE
  BELOW fMIDDLE DOT gRING gTILDE fPALATAL HOOK fRETROFLEX HOOK hAND BELT fSTROKE dLAMBDA WITH
  STROKE dLENIS F dLEZH eWITH RETROFLEX HOOK dLJ dLONG S fWITH DIAGONAL STROKE gDOT ABOVE gHIGH
  STROKE dLS DIGRAPH dLUM dLZ DIGRAPH dM eWITH ACUTE fCROSSED-TAIL fDOT ABOVE gBELOW fHOOK fMIDDLE
  TILDE fPALATAL HOOK dMIDDLE SCOTS S dMIDDLE-WELSH LL eV dMUM dN ePRECEDED BY APOSTROPHE eWITH
  ACUTE fCARON fCEDILLA fCIRCUMFLEX BELOW fCROSSED-TAIL fCURL fDESCENDER fDOT ABOVE gBELOW fGRAVE
  fLEFT HOOK fLINE BELOW fLONG RIGHT LEG fMIDDLE TILDE fOBLIQUE STROKE fPALATAL HOOK fRETROFLEX
  HOOK fTILDE dNJ dNUM dO eWITH ACUTE fBREVE fCARON fCIRCUMFLEX gAND ACUTE hDOT BELOW hGRAVE hHOOK
  ABOVE hTILDE fDIAERESIS gAND MACRON fDOT ABOVE hAND MACRON gBELOW fDOUBLE ACUTE gGRAVE fGRAVE
  fHOOK ABOVE fHORN gAND ACUTE hDOT BELOW hGRAVE hHOOK ABOVE hTILDE fINVERTED BREVE fLONG STROKE
  OVERLAY fLOOP fLOW RING INSIDE fMACRON gAND ACUTE hGRAVE fOGONEK gAND MACRON fRETROFLEX HOOK
  fSTROKE gAND ACUTE fTILDE gAND ACUTE hDIAERESIS hMACRON dOI dOLD POLISH O dOMEGA dOO dOPEN E
  fWITH RETROFLEX HOOK eO fWITH RETROFLEX HOOK gSTROKE eOE dOU dP eWITH ACUTE fDOT ABOVE fFLOURISH
  fHOOK fMIDDLE TILDE fPALATAL HOOK fSQUIRREL TAIL fSTROKE gTHROUGH DESCENDER dPHI dQ eWITH
  DIAGONAL STROKE fHOOK gTAIL fSTROKE THROUGH DESCENDER dQP DIGRAPH dR eROTUNDA eWITH ACUTE fCARON
  fCEDILLA fCROSSED-TAIL fDOT ABOVE gBELOW hAND MACRON fDOUBLE GRAVE fFISHHOOK gAND MIDDLE TILDE
  hPALATAL HOOK fINVERTED BREVE fLINE BELOW fLONG LEG fMIDDLE TILDE fOBLIQUE STROKE fPALATAL HOOK
  fSTROKE fTAIL eWITHOUT HANDLE dRAMS HORN dREVERSED C fWITH DOT eE eENG eHALF H eK eOPEN E gWITH
  HOOK hRETROFLEX HOOK eR WITH FISHHOOK eSCRIPT G dRUM eROTUNDA dS eWITH ACUTE gAND DOT ABOVE
  fCARON gAND DOT ABOVE fCEDILLA fCIRCUMFLEX fCOMMA BELOW fCURL fDOT ABOVE gBELOW hAND DOT ABOVE
  fHOOK fMIDDLE TILDE fOBLIQUE STROKE fPALATAL HOOK fSHORT STROKE OVERLAY fSWASH TAIL dSAKHA YAT
  dSALTILLO dSCHWA eWITH HOOK fRETROFLEX HOOK dSCRIPT G fWITH CROSSED-TAIL eR fWITH RING dSHARP S
  dSIDEWAYS DIAERESIZED U eO fWITH STROKE eOPEN O eTURNED M eU dSIGMOID S dSQUAT REVERSED ESH
  dSTIRRUP R dT eWITH CARON fCEDILLA fCIRCUMFLEX BELOW fCOMMA BELOW fCURL fDIAERESIS fDIAGONAL
  STROKE fDOT ABOVE gBELOW fHOOK gAND RETROFLEX HOOK fLINE BELOW fMIDDLE TILDE fPALATAL HOOK
  fRETROFLEX HOOK fSTROKE dTAILLESS PHI dTC DIGRAPH WITH CURL dTESH DIGRAPH fWITH PALATAL HOOK
  gRETROFLEX HOOK dTH WITH STRIKETHROUGH dTHORN eWITH STROKE gTHROUGH DESCENDER dTONE FIVE eSIX
  eTWO dTOP HALF O dTRESILLO dTS DIGRAPH fWITH RETROFLEX HOOK dTUM dTURNED A eAE eALPHA eDELTA eE
  eG eH fWITH FISHHOOK hAND TAIL eI eINSULAR G eK eL eM fWITH LONG LEG eO OPEN-O gWITH STROKE eOE
  fWITH HORIZONTAL STROKE gSTROKE eOPEN E eR fWITH HOOK gLONG LEG iAND RETROFLEX HOOK gMIDDLE TILDE
  gPALATAL HOOK gTAIL eT fWITH CURL eUI eV eW eY fWITH BELT dTZ dU eBAR fWITH SHORT RIGHT LEG eWITH
  ACUTE fBREVE fCARON fCIRCUMFLEX gBELOW fDIAERESIS gAND ACUTE hCARON hGRAVE hMACRON gBELOW fDOT
  BELOW fDOUBLE ACUTE gGRAVE fGRAVE fHOOK ABOVE fHORN gAND ACUTE hDOT BELOW hGRAVE hHOOK ABOVE
  hTILDE fINVERTED BREVE fLEFT HOOK fMACRON gAND DIAERESIS fOGONEK fRETROFLEX HOOK fRING ABOVE
  fSHORT RIGHT LEG fSTROKE fTILDE gAND ACUTE gBELOW dUE dUI dUM dUO dUPSILON eWITH STROKE dV eWITH
  CURL fDIAGONAL STROKE fDOT BELOW fHOOK fPALATAL HOOK fRIGHT HOOK fTILDE dVEND dVISIGOTHIC Z
  dVOLAPUK AE eOE eUE dVY dW eWITH ACUTE fCIRCUMFLEX fDIAERESIS fDOT ABOVE gBELOW fGRAVE fHOOK
  fRING ABOVE dX eWITH DIAERESIS fDOT ABOVE fLONG LEFT LEG iAND LOW RIGHT RING iWITH SERIF fLOW
  RIGHT RING fPALATAL HOOK dY eWITH ACUTE fCIRCUMFLEX fDIAERESIS fDOT ABOVE gBELOW fGRAVE fHOOK
  gABOVE fLOOP fMACRON fRING ABOVE fSHORT RIGHT LEG fSTROKE fTILDE dYOGH dZ eWITH ACUTE fCARON
  fCIRCUMFLEX fCURL fDESCENDER fDOT ABOVE gBELOW fHOOK fLINE BELOW fMIDDLE TILDE fPALATAL HOOK
  fRETROFLEX HOOK fSTROKE fSWASH TAIL cLIGATURE FF dFFI dFFL dFI dFL dIJ dLONG S T dOE dST
  bSUBSCRIPT SMALL LETTER A eE eH eI eJ eK eL eM eN eO eP eR eS eSCHWA eT eU eV eX aLEAF FLUTTERING
  IN WIND aLEAFY GREEN aLEDGER aLEFT AND LOWER AND RIGHT TRIANGULAR THREE QUARTERS BLOCK dONE
  EIGHTH BLOCK cRIGHT DOUBLE TURNSTILE dTACK dTRIANGULAR HALF BLOCK cUPPER AND RIGHT TRIANGULAR
  THREE QUARTERS BLOCK dONE EIGHTH BLOCK bANGER BUBBLE bANGLE BRACKET dWITH DOT bARC LESS-THAN
  BRACKET bARROW WITH CIRCLED PLUS dSMALL CIRCLE bBARB DOWN RIGHT BARB DOWN HARPOON fUP HARPOON cUP
  RIGHT BARB DOWN HARPOON fUP HARPOON bBLACK LENTICULAR BRACKET cTORTOISE SHELL BRACKET bCEILING
  bCLOSED ENTRY bCORNER BRACKET bCURLY BRACKET dLOWER HOOK dMIDDLE PIECE dUPPER HOOK bDOTTED
  SUBSTITUTION BRACKET bDOUBLE ANGLE BRACKET cPARENTHESIS cQUOTATION MARK cWIGGLY FENCE bFISH TAIL
  bFIVE EIGHTHS BLOCK bFLOOR bHALF BLACK CIRCLE dSTAR cBLOCK cCIRCLE dWITH DOT eFOUR DOTS eTHREE
  DOTS eTWO DOTS cFOLDER cINVERSE MEDIUM SHADE AND RIGHT HALF BLOCK cMEDIUM SHADE cRUNNING MAN
  bHAND TELEPHONE RECEIVER bLOW PARAPHRASE BRACKET bLUGGAGE bMULTIMAP bNORMAL FACTOR SEMIDIRECT
  PRODUCT bONE EIGHTH BLOCK cQUARTER BLOCK bOUTER JOIN bPARENTHESIS cEXTENSION cLOWER HOOK cUPPER
  HOOK bRAISED OMISSION BRACKET bRIGHT ARROW dTHROUGH SMALL CIRCLE dWITH DOUBLE VERTICAL STROKE
  eSTROKE eVERTICAL STROKE cBLACK ARROW cDOUBLE ARROW eWITH STROKE fVERTICAL STROKE cOPEN-HEADED
  ARROW cSANS-SERIF ARROW cTRIANGLE-HEADED ARROW cWAVE ARROW cWHITE ARROW bS-SHAPED BAG DELIMITER
  bSEMIDIRECT PRODUCT bSEVEN EIGHTHS BLOCK bSIDEWAYS U BRACKET bSINGLE QUOTATION MARK bSPEECH
  BUBBLE bSQUARE BRACKET dEXTENSION dLOWER CORNER dUPPER CORNER dWITH DOUBLE STROKE eQUILL eSTROKE
  eTICK IN BOTTOM CORNER gTOP CORNER eUNDERBAR bSUBSTITUTION BRACKET bTACK bTHIRD WHITE RIGHT
  POINTING INDEX bTHOUGHT BUBBLE bTHREE EIGHTHS BLOCK cQUARTERS BLOCK bTORTOISE SHELL BRACKET
  bTRANSPOSITION BRACKET bTRIANGLE BESIDE VERTICAL BAR bTRIANGULAR ONE QUARTER BLOCK bVERTICAL BAR
  WITH QUILL cBOX LINE bWHITE CORNER BRACKET cCURLY BRACKET cLENTICULAR BRACKET cPARENTHESIS
  cSQUARE BRACKET cTORTOISE SHELL BRACKET bWIGGLY FENCE bWRITING HAND aLEFT-FACING ARMENIAN
  ETERNITY SIGN bFIST bSVASTI SIGN dWITH DOTS aLEFT-HANDED INTERLACED PENTAGRAM aLEFT-POINTING
  ANGLE BRACKET bCURVED ANGLE BRACKET bDOUBLE ANGLE QUOTATION MARK bMAGNIFYING GLASS aLEFT-SHADED
  WHITE RIGHTWARDS ARROW aLEFT-SIDE ARC ANTICLOCKWISE ARROW aLEFT-TO-RIGHT EMBEDDING bISOLATE bMARK
  bOVERRIDE aLEFTWARDS ARROW cABOVE ALMOST EQUAL TO dREVERSE ALMOST EQUAL TO eTILDE OPERATOR dSHORT
  RIGHTWARDS ARROW dTILDE OPERATOR cAND UPPER AND LOWER ONE EIGHTH BLOCK cFROM BAR eTO BLACK
  DIAMOND cOVER RIGHTWARDS ARROW cTHROUGH LESS-THAN dSUBSET dX cTO BAR eOVER RIGHTWARDS ARROW TO
  BAR dBLACK DIAMOND cWITH DOTTED STEM dDOUBLE VERTICAL STROKE dEQUILATERAL ARROWHEAD dHOOK dLARGE
  TRIANGLE ARROWHEAD dLOOP dMEDIUM TRIANGLE ARROWHEAD dNOTCHED TAIL dPLUS BELOW dSMALL EQUILATERAL
  ARROWHEAD eTRIANGLE ARROWHEAD dSTROKE dTAIL eWITH DOUBLE VERTICAL STROKE fVERTICAL STROKE dTIP
  DOWNWARDS eUPWARDS dVERTICAL STROKE bARROW-TAIL bBACK-TILTED SHADOWED WHITE ARROW bBLACK ARROW
  cCIRCLED WHITE ARROW bBOTTOM-SHADED WHITE ARROW bCOMPRESSED ARROW bDASHED ARROW bDOUBLE ARROW
  dFROM BAR dWITH STROKE eVERTICAL STROKE cARROW-TAIL cDASH ARROW bFINGER-POST ARROW bFRONT-TILTED
  SHADOWED WHITE ARROW bHAND bHARPOON OVER RIGHTWARDS HARPOON cWITH BARB DOWN ABOVE RIGHTWARDS
  HARPOON WITH BARB DOWN fBELOW LONG DASH fFROM BAR fTO BAR eDOWNWARDS eUP ABOVE LEFTWARDS HARPOON
  WITH BARB DOWN gLONG DASH gRIGHTWARDS HARPOON WITH BARB UP fFROM BAR fTO BAR eUPWARDS bHEAVY
  ARROW cCOMPRESSED ARROW bLEFT-SHADED WHITE ARROW bOPEN-HEADED ARROW bPAIRED ARROWS bQUADRUPLE
  ARROW bRIGHT-SHADED WHITE ARROW bROCKET bSANS-SERIF ARROW bSQUARED ARROW bSQUIGGLE ARROW bTOP
  SHADED WHITE ARROW bTRIANGLE ARROWHEAD bTRIANGLE-HEADED ARROW dOVER RIGHTWARDS TRIANGLE-HEADED
  ARROW dTO BAR dWITH BOLD SHAFT eDOUBLE HORIZONTAL STROKE fVERTICAL STROKE eHEAVY SHAFT eLONG TIP
  DOWNWARDS gUPWARDS eMEDIUM SHAFT eNARROW SHAFT eVERY HEAVY SHAFT cDASHED ARROW cPAIRED ARROWS
  bTRIPLE ARROW cDASH ARROW bTWO HEADED ARROW bTWO-HEADED ARROW FROM BAR dWITH DOUBLE VERTICAL
  STROKE eTAIL fWITH DOUBLE VERTICAL STROKE gVERTICAL STROKE eTRIANGLE ARROWHEADS eVERTICAL STROKE
  cTRIPLE DASH ARROW bWAVE ARROW bWHITE ARROW dWITHIN TRIANGLE ARROWHEAD aLEG aLEMON aLEO aLEOPARD
  aLEPCHA CONSONANT SIGN K dKANG dL dM dN dNYIN-DO dP dR dT bDIGIT EIGHT cFIVE cFOUR cNINE cONE
  cSEVEN cSIX cTHREE cTWO cZERO bLETTER A cBA cBLA cCA cCHA cDA cDDA cDZA cFA cFLA cGA cGLA cHA
  cHLA cJA cKA cKHA cKLA cLA cMA cMLA cNA cNGA cNYA cPA cPHA cPLA cRA cSA cSHA cTA cTHA cTSA cTSHA
  cTTA cTTHA cVA cWA cYA bPUNCTUATION CER-WA cNYET THYOOM TA-ROL cTA-ROL cTSHOOK dCER-WA bSIGN
  NUKTA cRAN bSUBJOINED LETTER RA dYA bVOWEL SIGN AA dE dI dO dOO dU dUU aLESS-THAN ABOVE
  DOUBLE-LINE EQUAL ABOVE GREATER-THAN cGREATER-THAN ABOVE DOUBLE-LINE EQUAL cLEFTWARDS ARROW
  cSIMILAR ABOVE GREATER-THAN dOR EQUAL cSLANTED EQUAL ABOVE GREATER-THAN ABOVE SLANTED EQUAL bAND
  NOT APPROXIMATE cSINGLE-LINE NOT EQUAL TO bBUT NOT EQUAL TO dEQUIVALENT TO bCLOSED BY CURVE
  eABOVE SLANTED EQUAL bEQUAL TO OR GREATER-THAN bOR APPROXIMATE cEQUAL TO cEQUIVALENT TO
  cGREATER-THAN cSLANTED EQUAL TO fWITH DOT ABOVE iRIGHT hINSIDE bOVER EQUAL TO bSIGN bWITH CIRCLE
  INSIDE cDOT cQUESTION MARK ABOVE aLEVEL SLIDER aLF aLIBRA aLIGATURE OPEN ET ORNAMENT aLIGHT CHECK
  MARK bEIGHT SPOKED ASTERISK bFIVE POINTED BLACK STAR cSPOKED ASTERISK bFOUR POINTED BLACK CUSP
  eSTAR bGREEK CROSS bLEFT TORTOISE SHELL BRACKET ORNAMENT bRAIL bRIGHT TORTOISE SHELL BRACKET
  ORNAMENT bSALTIRE bSHADE bSIX SPOKED ASTERISK bTHREE POINTED BLACK STAR bTWELVE POINTED BLACK
  STAR bVERTICAL BAR bWHITE SQUARE aLIGHTNING bMOOD cBUBBLE aLIMBU DIGIT EIGHT cFIVE cFOUR cNINE
  cONE cSEVEN cSIX cTHREE cTWO cZERO bEXCLAMATION MARK bLETTER BA cBHA cCA cCHA cDA cDHA cGA cGHA
  cGYAN cHA cJA cJHA cKA cKHA cLA cMA cNA cNGA cPA cPHA cRA cSA cSHA cSSA cTA cTHA cTRA cWA cYA
  cYAN bQUESTION MARK bSIGN KEMPHRENG cLOO cMUKPHRENG cSA-I bSMALL LETTER ANUSVARA dKA dLA dMA dNA
  dNGA dPA dRA dTA bSUBJOINED LETTER RA dWA dYA bVOWEL SIGN A dAI dAU dE dEE dI dO dOO dU
  bVOWEL-CARRIER LETTER aLIMITED LIABILITY SIGN aLINE FEED bINTEGRATION NOT INCLUDING THE POLE
  cWITH RECTANGULAR PATH AROUND POLE dSEMICIRCULAR PATH AROUND POLE bSEPARATOR bTABULATION cSET
  aLINEAR A SIGN A028B dA100-102 dA120B dA131C dA301 dA302 dA303 dA304 dA305 dA306 dA307 dA308
  dA309A dA309B dA309C dA310 dA311 dA312 dA313A dA313B dA313C dA314 dA315 dA316 dA317 dA318 dA319
  dA320 dA321 dA322 dA323 dA324 dA325 dA326 dA327 dA328 dA329 dA330 dA331 dA332 dA333 dA334 dA335
  dA336 dA337 dA338 dA339 dA340 dA341 dA342 dA343 dA344 dA345 dA346 dA347 dA348 dA349 dA350 dA351
  dA352 dA353 dA354 dA355 dA356 dA357 dA358 dA359 dA360 dA361 dA362 dA363 dA364 dA365 dA366 dA367
  dA368 dA369 dA370 dA371 dA400-VAS dA401-VAS dA402-VAS dA403-VAS dA404-VAS dA405-VAS dA406-VAS
  dA407-VAS dA408-VAS dA409-VAS dA410-VAS dA411-VAS dA412-VAS dA413-VAS dA414-VAS dA415-VAS
  dA416-VAS dA417-VAS dA418-VAS dA501 dA502 dA503 dA504 dA505 dA506 dA508 dA509 dA510 dA511 dA512
  dA513 dA515 dA516 dA520 dA521 dA523 dA524 dA525 dA526 dA527 dA528 dA529 dA530 dA531 dA532 dA534
  dA535 dA536 dA537 dA538 dA539 dA540 dA541 dA542 dA545 dA547 dA548 dA549 dA550 dA551 dA552 dA553
  dA554 dA555 dA556 dA557 dA559 dA563 dA564 dA565 dA566 dA568 dA569 dA570 dA571 dA572 dA573 dA574
  dA575 dA576 dA577 dA578 dA579 dA580 dA581 dA582 dA583 dA584 dA585 dA586 dA587 dA588 dA589 dA591
  dA592 dA594 dA595 dA596 dA598 dA600 dA601 dA602 dA603 dA604 dA606 dA608 dA609 dA610 dA611 dA612
  dA613 dA614 dA615 dA616 dA617 dA618 dA619 dA620 dA621 dA622 dA623 dA624 dA626 dA627 dA628 dA629
  dA634 dA637 dA638 dA640 dA642 dA643 dA644 dA645 dA646 dA648 dA649 dA651 dA652 dA653 dA654 dA655
  dA656 dA657 dA658 dA659 dA660 dA661 dA662 dA663 dA664 dA701 A dA702 B dA703 D dA704 E dA705 F
  dA706 H dA707 J dA708 K dA709 L dA709-2 L2 dA709-3 L3 dA709-4 L4 dA709-6 L6 dA710 W dA711 X dA712
  Y dA713 OMEGA dA714 ABB dA715 BB dA717 DD dA726 EYYY dA732 JE dA800 dA801 dA802 dA803 dA804 dA805
  dA806 dA807 dAB001 dAB002 dAB003 dAB004 dAB005 dAB006 dAB007 dAB008 dAB009 dAB010 dAB011 dAB013
  dAB016 dAB017 dAB020 dAB021 dAB021F dAB021M dAB022 dAB022F dAB022M dAB023 dAB023M dAB024 dAB026
  dAB027 dAB028 dAB029 dAB030 dAB031 dAB034 dAB037 dAB038 dAB039 dAB040 dAB041 dAB044 dAB045 dAB046
  dAB047 dAB048 dAB049 dAB050 dAB051 dAB053 dAB054 dAB055 dAB056 dAB057 dAB058 dAB059 dAB060 dAB061
  dAB065 dAB066 dAB067 dAB069 dAB070 dAB073 dAB074 dAB076 dAB077 dAB078 dAB079 dAB080 dAB081 dAB082
  dAB085 dAB086 dAB087 dAB118 dAB120 dAB122 dAB123 dAB131A dAB131B dAB164 dAB171 dAB180 dAB188
  dAB191 bB IDEOGRAM B100 MAN dB102 WOMAN dB104 DEER dB105 EQUID dB105F MARE dB105M STALLION dB106F
  EWE dB106M RAM dB107F SHE-GOAT dB107M HE-GOAT dB108F SOW dB108M BOAR dB109F COW dB109M BULL dB120
  WHEAT dB121 BARLEY dB122 OLIVE dB123 SPICE dB125 CYPERUS dB130 OIL dB131 WINE dB132 dB140 BRONZE
  dB141 GOLD dB142 dB145 WOOL dB146 dB150 dB151 HORN dB152 dB153 dB154 dB157 dB158 dB159 CLOTH
  dB160 dB161 dB162 GARMENT dB163 ARMOUR dB164 dB165 dB166 dB167 dB168 dB169 dB170 dB171 dB172
  dB173 MONTH dB174 dB176 TREE dB177 dB178 dB179 dB180 dB181 dB182 dB183 dB184 dB185 dB189 dB190
  dB191 HELMET dB220 FOOTSTOOL dB225 BATHTUB dB230 SPEAR dB231 ARROW dB232 dB233 SWORD dB234 dB236
  dB240 WHEELED CHARIOT dB241 CHARIOT dB242 CHARIOT FRAME dB243 WHEEL dB245 dB246 dB248 dB249 dB251
  dB252 dB253 dB254 DART dB255 dB256 dB257 dB258 dB259 dVESSEL B155 eB200 eB201 eB202 eB203 eB204
  eB205 eB206 eB207 eB208 eB209 eB210 eB211 eB212 eB213 eB214 eB215 eB216 eB217 eB218 eB219 eB221
  eB222 eB226 eB227 eB228 eB229 eB250 eB305 cMONOGRAM B127 KAPO dB128 KANAKO dB133 AREPA dB135 MERI
  dB156 TURO2 dB247 DIPTE cSYLLABLE B001 DA dB002 RO dB003 PA dB004 TE dB005 TO dB006 NA dB007 DI
  dB008 A dB009 SE dB010 U dB011 PO dB012 SO dB013 ME dB014 DO dB015 MO dB016 QA dB017 ZA dB020 ZO
  dB021 QI dB023 MU dB024 NE dB025 A2 dB026 RU dB027 RE dB028 I dB029 PU2 dB030 NI dB031 SA dB032
  QO dB033 RA3 dB036 JO dB037 TI dB038 E dB039 PI dB040 WI dB041 SI dB042 WO dB043 A3 dB044 KE
  dB045 DE dB046 JE dB048 NWA dB050 PU dB051 DU dB052 NO dB053 RI dB054 WA dB055 NU dB057 JA dB058
  SU dB059 TA dB060 RA dB061 O dB062 PTE dB065 JU dB066 TA2 dB067 KI dB068 RO2 dB069 TU dB070 KO
  dB071 DWE dB072 PE dB073 MI dB074 ZE dB075 WE dB076 RA2 dB077 KA dB078 QE dB080 MA dB081 KU dB085
  AU dB087 TWE dB090 DWO dB091 TWO cSYMBOL B018 dB019 dB022 dB034 dB047 dB049 dB056 dB063 dB064
  dB079 dB082 dB083 dB086 dB089 aLINK SYMBOL aLINKED PAPERCLIPS aLION FACE aLIPS aLIPSTICK aLIRA
  SIGN aLISU LETTER A cAE cBA cCA cCHA cDA cDZA cE cEU cFA cGA cGHA cHA cHHA cI cJA cKA cKHA cLA
  cMA cNA cNGA cO cOE cPA cPHA cSA cSHA cTA cTHA cTONE MYA BO eCYA eJEU eNA eTI dNA PO cTSA cTSHA
  cU cUE cUH cWA cXA cYA cYHA cZA cZHA bPUNCTUATION COMMA cFULL STOP aLIVRE TOURNOIS SIGN aLIZARD
  aLLAMA aLOBSTER aLOCK bWITH INK PEN aLOCKING-SHIFT ONE bZERO aLOGICAL AND cWITH DOT ABOVE dDOUBLE
  OVERBAR eUNDERBAR dHORIZONTAL DASH dMIDDLE STEM dUNDERBAR bOR cOVERLAPPING LOGICAL AND cWITH DOT
  ABOVE dDOUBLE OVERBAR eUNDERBAR dHORIZONTAL DASH dMIDDLE STEM aLOLLIPOP aLONG DASH FROM LEFT
  MEMBER OF DOUBLE VERTICAL bDIVISION bDRUM bLEFT RIGHT ARROW dDOUBLE ARROW cTACK bLEFTWARDS ARROW
  dFROM BAR cDOUBLE ARROW eFROM BAR cSQUIGGLE ARROW bRIGHT TACK bRIGHTWARDS ARROW dFROM BAR cDOUBLE
  ARROW eFROM BAR cSQUIGGLE ARROW aLOTION BOTTLE aLOTUS aLOUDLY CRYING FACE aLOVE HOTEL bLETTER
  aLOW ASTERISK bBATTERY bBRIGHTNESS SYMBOL bDOUBLE PRIME QUOTATION MARK bKAVYKA cWITH DOT bLINE
  aLOWER BLADE SCISSORS bFIVE EIGHTHS BLOCK bHALF BLOCK cCIRCLE cINVERSE WHITE CIRCLE cMEDIUM SHADE
  bLEFT BALLPOINT PEN cBLOCK DIAGONAL LOWER MIDDLE LEFT TO LOWER CENTRE jRIGHT eUPPER CENTRE TO
  LOWER MIDDLE RIGHT iRIGHT hUPPER MIDDLE RIGHT fLEFT TO LOWER CENTRE iMIDDLE RIGHT hUPPER MIDDLE
  RIGHT fMIDDLE LEFT TO LOWER CENTRE jMIDDLE RIGHT jRIGHT cCRAYON cFOUNTAIN PEN cPAINTBRUSH cPENCIL
  cQUADRANT CIRCULAR ARC cSEMICIRCULAR ANTICLOCKWISE ARROW cTRIANGLE cTRIANGULAR MEDIUM SHADE bONE
  EIGHTH BLOCK cQUARTER BLOCK bRIGHT BLOCK DIAGONAL LOWER CENTRE TO LOWER MIDDLE RIGHT hUPPER
  MIDDLE RIGHT iRIGHT fLEFT TO LOWER MIDDLE RIGHT hUPPER CENTRE iMIDDLE RIGHT fMIDDLE LEFT TO UPPER
  CENTRE jMIDDLE RIGHT jRIGHT eUPPER MIDDLE LEFT TO UPPER CENTRE jRIGHT cCORNER WITH DOT
  cDROP-SHADOWED WHITE SQUARE cPENCIL cQUADRANT CIRCULAR ARC cSEMICIRCULAR CLOCKWISE ARROW
  cSHADOWED WHITE CIRCLE eSQUARE cTRIANGLE cTRIANGULAR MEDIUM SHADE bSEVEN EIGHTHS BLOCK bTHREE
  EIGHTHS BLOCK cQUARTERS BLOCK bTRIANGULAR ONE QUARTER BLOCK aLOZENGE bDIVIDED BY HORIZONTAL RULE
  aLRE aLRI aLRM aLRO aLUGGAGE aLUNGS aLYCIAN LETTER A cAN cB cBH cD cE cEN cG cH cI cJ cK cKK cL
  cM cMM cN cNN cP cQ cR cS cT cTH cTT cU cW cX cZ aLYDIAN LETTER A cAN cB cC cD cE cEN cF cG cI cK
  cL cLY cM cN cNN cO cQ cR cS cSS cT cTT cU cV cY bTRIANGULAR MARK aLYING FACE aMACRON aMAGE
  aMAGIC WAND aMAGNET aMAHAJANI ABBREVIATION SIGN bLETTER A cBA cBHA cCA cCHA cDA cDDA cDDHA cDHA
  cE cGA cGHA cHA cI cJA cJHA cKA cKHA cLA cMA cNA cNNA cNYA cO cPA cPHA cRA cRRA cSA cTA cTHA cTTA
  cTTHA cU cVA bLIGATURE SHRI bSECTION MARK bSIGN NUKTA aMAHJONG TILE AUTUMN cBACK cBAMBOO
  cCHRYSANTHEMUM cEAST WIND cEIGHT OF BAMBOOS eCHARACTERS eCIRCLES cFIVE OF BAMBOOS eCHARACTERS
  eCIRCLES cFOUR OF BAMBOOS eCHARACTERS eCIRCLES cGREEN DRAGON cJOKER cNINE OF BAMBOOS eCHARACTERS
  eCIRCLES cNORTH WIND cONE OF BAMBOOS eCHARACTERS eCIRCLES cORCHID cPLUM cRED DRAGON cSEVEN OF
  BAMBOOS eCHARACTERS eCIRCLES cSIX OF BAMBOOS eCHARACTERS eCIRCLES cSOUTH WIND cSPRING cSUMMER
  cTHREE OF BAMBOOS eCHARACTERS eCIRCLES cTWO OF BAMBOOS eCHARACTERS eCIRCLES cWEST WIND cWHITE
  DRAGON cWINTER aMAKASAR ANGKA bEND OF SECTION bLETTER A cBA cCA cDA cGA cJA cKA cLA cMA cNA cNGA
  cNYA cPA cRA cSA cTA cVA cYA bPASSIMBANG bVOWEL SIGN E dI dO dU aMALAYALAM AU LENGTH MARK bDATE
  MARK bDIGIT EIGHT cFIVE cFOUR cNINE cONE cSEVEN cSIX cTHREE cTWO cZERO bFRACTION ONE EIGHTH
  dFIFTH dFORTIETH dHALF dONE-HUNDRED-AND-SIXTIETH dQUARTER dSIXTEENTH dTENTH dTWENTIETH cTHREE
  EIGHTIETHS dQUARTERS dSIXTEENTHS dTWENTIETHS bLETTER A cAA cAI cARCHAIC II cAU cBA cBHA cCA cCHA
  cCHILLU K dL dLL dLLL dM dN dNN dRR dY cDA cDDA cDDHA cDHA cDOT REPH cE cEE cGA cGHA cHA cI cII
  cJA cJHA cKA cKHA cLA cLLA cLLLA cMA cNA cNGA cNNA cNNNA cNYA cO cOO cPA cPHA cRA cRRA cSA cSHA
  cSSA cTA cTHA cTTA cTTHA cTTTA cU cUU cVA cVEDIC ANUSVARA cVOCALIC L dLL dR dRR cYA bNUMBER ONE
  HUNDRED dTHOUSAND cTEN bSIGN ANUSVARA cAVAGRAHA cCANDRABINDU cCIRCULAR VIRAMA cCOMBINING ANUSVARA
  ABOVE cPARA cVERTICAL BAR VIRAMA cVIRAMA cVISARGA bVOWEL SIGN AA dAI dAU dE dEE dI dII dO dOO dU
  dUU dVOCALIC L eLL eR eRR aMALE AND FEMALE SIGN bSIGN bWITH STROKE AND MALE AND FEMALE SIGN dSIGN
  aMALTESE CROSS aMAMMOTH aMAN bAND WOMAN HOLDING HANDS bDANCING bIN BUSINESS SUIT LEVITATING
  cTUXEDO bWITH GUA PI MAO cTURBAN aMANAT SIGN aMANDAIC AFFRICATION MARK bGEMINATION MARK bLETTER
  AB cAD cAG cAH cAIN cAK cAKSA cAL cAM cAN cAP cAQ cAR cAS cASH cASZ cAT cATT cAZ cDUSHENNA cHALQA
  cIN cIT cKAD cUSHENNA bPUNCTUATION bVOCALIZATION MARK aMANGO aMANICHAEAN ABBREVIATION MARK ABOVE
  dBELOW bLETTER AAYIN cALEPH cAYIN cBETH cBHETH cDALETH cDHAMEDH cFE cGHIMEL cGIMEL cHE cHETH
  cJAYIN cJHAYIN cKAPH cKHAPH cLAMEDH cMEM cNUN cPE cQHOPH cQOPH cRESH cSADHE cSAMEKH cSHIN cSSHIN
  cTAW cTETH cTHAMEDH cWAW cXAPH cXOPH cYODH cZAYIN cZHAYIN bNUMBER FIVE cONE dHUNDRED cTEN cTWENTY
  bPUNCTUATION DOT dWITHIN DOT cDOUBLE DOT WITHIN DOT cFLEURON cLINE FILLER cSTAR cTWO DOTS bSIGN
  UD aMANS SHOE aMANTELPIECE CLOCK aMANUAL WHEELCHAIR aMAP SYMBOL FOR LIGHTHOUSE aMAPLE LEAF
  aMARCHEN HEAD MARK bLETTER -A cA cBA cCA cCHA cDA cDZA cGA cHA cJA cKA cKHA cLA cMA cNA cNGA cNYA
  cPA cPHA cRA cSA cSHA cTA cTHA cTSA cTSHA cWA cYA cZA cZHA bMARK SHAD bSIGN ANUSVARA cCANDRABINDU
  bSUBJOINED LETTER A dBA dCA dCHA dDA dDZA dGA dHA dJA dKA dKHA dLA dMA dNA dNGA dNYA dPA dPHA dRA
  dSA dSHA dTA dTHA dTSA dTSHA dWA dYA dZA dZHA bVOWEL SIGN AA dE dI dO dU aMARRIAGE SYMBOL
  aMARTIAL ARTS UNIFORM aMASARAM GONDI DIGIT EIGHT dFIVE dFOUR dNINE dONE dSEVEN dSIX dTHREE dTWO
  dZERO cLETTER A dAA dAI dAU dBA dBHA dCA dCHA dDA dDDA dDDHA dDHA dE dGA dGHA dHA dI dII dJA dJHA
  dJNYA dKA dKHA dKSSA dLA dLLA dMA dNA dNGA dNNA dNYA dO dPA dPHA dRA dSA dSHA dSSA dTA dTHA dTRA
  dTTA dTTHA dU dUU dVA dYA cRA-KARA cREPHA cSIGN ANUSVARA dCANDRA dHALANTA dNUKTA dVISARGA cVIRAMA
  cVOWEL SIGN AA eAI eAU eE eI eII eO eU eUU eVOCALIC R aMASCULINE ORDINAL INDICATOR aMASK WORK
  SYMBOL aMASU MARK aMATE DRINK aMATHEMATICAL BOLD CAPITAL A dALPHA dB dBETA dC dCHI dD dDELTA
  dDIGAMMA dE dEPSILON dETA dF dG dGAMMA dH dI dIOTA dJ dK dKAPPA dL dLAMDA dM dMU dN dNU dO dOMEGA
  dOMICRON dP dPHI dPI dPSI dQ dR dRHO dS dSIGMA dT dTAU dTHETA eSYMBOL dU dUPSILON dV dW dX dXI dY
  dZ dZETA cDIGIT EIGHT dFIVE dFOUR dNINE dONE dSEVEN dSIX dTHREE dTWO dZERO cEPSILON SYMBOL
  cFRAKTUR CAPITAL A eB eC eD eE eF eG eH eI eJ eK eL eM eN eO eP eQ eR eS eT eU eV eW eX eY eZ
  dSMALL A eB eC eD eE eF eG eH eI eJ eK eL eM eN eO eP eQ eR eS eT eU eV eW eX eY eZ cITALIC
  CAPITAL A eALPHA eB eBETA eC eCHI eD eDELTA eE eEPSILON eETA eF eG eGAMMA eH eI eIOTA eJ eK
  eKAPPA eL eLAMDA eM eMU eN eNU eO eOMEGA eOMICRON eP ePHI ePI ePSI eQ eR eRHO eS eSIGMA eT eTAU
  eTHETA fSYMBOL eU eUPSILON eV eW eX eXI eY eZ eZETA dEPSILON SYMBOL dKAPPA SYMBOL dNABLA dPARTIAL
  DIFFERENTIAL dPHI SYMBOL dPI SYMBOL dRHO SYMBOL dSMALL A eALPHA eB eBETA eC eCHI eD eDELTA eE
  eEPSILON eETA eF eFINAL SIGMA eG eGAMMA eH eI eIOTA eJ eK eKAPPA eL eLAMDA eM eMU eN eNU eO
  eOMEGA eOMICRON eP ePHI ePI ePSI eQ eR eRHO eS eSIGMA eT eTAU eTHETA eU eUPSILON eV eW eX eXI eY
  eZ eZETA dTHETA SYMBOL cKAPPA SYMBOL cNABLA cPARTIAL DIFFERENTIAL cPHI SYMBOL cPI SYMBOL cRHO
  SYMBOL cSCRIPT CAPITAL A eB eC eD eE eF eG eH eI eJ eK eL eM eN eO eP eQ eR eS eT eU eV eW eX eY
  eZ dSMALL A eB eC eD eE eF eG eH eI eJ eK eL eM eN eO eP eQ eR eS eT eU eV eW eX eY eZ cSMALL A
  dALPHA dB dBETA dC dCHI dD dDELTA dDIGAMMA dE dEPSILON dETA dF dFINAL SIGMA dG dGAMMA dH dI dIOTA
  dJ dK dKAPPA dL dLAMDA dM dMU dN dNU dO dOMEGA dOMICRON dP dPHI dPI dPSI dQ dR dRHO dS dSIGMA dT
  dTAU dTHETA dU dUPSILON dV dW dX dXI dY dZ dZETA cTHETA SYMBOL bDOUBLE-STRUCK CAPITAL A dB dD dE
  dF dG dI dJ dK dL dM dO dS dT dU dV dW dX dY cDIGIT EIGHT dFIVE dFOUR dNINE dONE dSEVEN dSIX
  dTHREE dTWO dZERO cSMALL A dB dC dD dE dF dG dH dI dJ dK dL dM dN dO dP dQ dR dS dT dU dV dW dX
  dY dZ bFALLING DIAGONAL bFRAKTUR CAPITAL A dB dD dE dF dG dJ dK dL dM dN dO dP dQ dS dT dU dV dW
  dX dY cSMALL A dB dC dD dE dF dG dH dI dJ dK dL dM dN dO dP dQ dR dS dT dU dV dW dX dY dZ bITALIC
  CAPITAL A dALPHA dB dBETA dC dCHI dD dDELTA dE dEPSILON dETA dF dG dGAMMA dH dI dIOTA dJ dK
  dKAPPA dL dLAMDA dM dMU dN dNU dO dOMEGA dOMICRON dP dPHI dPI dPSI dQ dR dRHO dS dSIGMA dT dTAU
  dTHETA eSYMBOL dU dUPSILON dV dW dX dXI dY dZ dZETA cEPSILON SYMBOL cKAPPA SYMBOL cNABLA cPARTIAL
  DIFFERENTIAL cPHI SYMBOL cPI SYMBOL cRHO SYMBOL cSMALL A dALPHA dB dBETA dC dCHI dD dDELTA
  dDOTLESS I eJ dE dEPSILON dETA dF dFINAL SIGMA dG dGAMMA dI dIOTA dJ dK dKAPPA dL dLAMDA dM dMU
  dN dNU dO dOMEGA dOMICRON dP dPHI dPI dPSI dQ dR dRHO dS dSIGMA dT dTAU dTHETA dU dUPSILON dV dW
  dX dXI dY dZ dZETA cTHETA SYMBOL bLEFT ANGLE BRACKET cDOUBLE ANGLE BRACKET cFLATTENED PARENTHESIS
  cWHITE SQUARE BRACKET dTORTOISE SHELL BRACKET bMONOSPACE CAPITAL A dB dC dD dE dF dG dH dI dJ dK
  dL dM dN dO dP dQ dR dS dT dU dV dW dX dY dZ cDIGIT EIGHT dFIVE dFOUR dNINE dONE dSEVEN dSIX
  dTHREE dTWO dZERO cSMALL A dB dC dD dE dF dG dH dI dJ dK dL dM dN dO dP dQ dR dS dT dU dV dW dX
  dY dZ bRIGHT ANGLE BRACKET cDOUBLE ANGLE BRACKET cFLATTENED PARENTHESIS cWHITE SQUARE BRACKET
  dTORTOISE SHELL BRACKET bRISING DIAGONAL bSANS-SERIF BOLD CAPITAL A eALPHA eB eBETA eC eCHI eD
  eDELTA eE eEPSILON eETA eF eG eGAMMA eH eI eIOTA eJ eK eKAPPA eL eLAMDA eM eMU eN eNU eO eOMEGA
  eOMICRON eP ePHI ePI ePSI eQ eR eRHO eS eSIGMA eT eTAU eTHETA fSYMBOL eU eUPSILON eV eW eX eXI eY
  eZ eZETA dDIGIT EIGHT eFIVE eFOUR eNINE eONE eSEVEN eSIX eTHREE eTWO eZERO dEPSILON SYMBOL
  dITALIC CAPITAL A fALPHA fB fBETA fC fCHI fD fDELTA fE fEPSILON fETA fF fG fGAMMA fH fI fIOTA fJ
  fK fKAPPA fL fLAMDA fM fMU fN fNU fO fOMEGA fOMICRON fP fPHI fPI fPSI fQ fR fRHO fS fSIGMA fT
  fTAU fTHETA gSYMBOL fU fUPSILON fV fW fX fXI fY fZ fZETA eEPSILON SYMBOL eKAPPA SYMBOL eNABLA
  ePARTIAL DIFFERENTIAL ePHI SYMBOL ePI SYMBOL eRHO SYMBOL eSMALL A fALPHA fB fBETA fC fCHI fD
  fDELTA fE fEPSILON fETA fF fFINAL SIGMA fG fGAMMA fH fI fIOTA fJ fK fKAPPA fL fLAMDA fM fMU fN
  fNU fO fOMEGA fOMICRON fP fPHI fPI fPSI fQ fR fRHO fS fSIGMA fT fTAU fTHETA fU fUPSILON fV fW fX
  fXI fY fZ fZETA eTHETA SYMBOL dKAPPA SYMBOL dNABLA dPARTIAL DIFFERENTIAL dPHI SYMBOL dPI SYMBOL
  dRHO SYMBOL dSMALL A eALPHA eB eBETA eC eCHI eD eDELTA eE eEPSILON eETA eF eFINAL SIGMA eG eGAMMA
  eH eI eIOTA eJ eK eKAPPA eL eLAMDA eM eMU eN eNU eO eOMEGA eOMICRON eP ePHI ePI ePSI eQ eR eRHO
  eS eSIGMA eT eTAU eTHETA eU eUPSILON eV eW eX eXI eY eZ eZETA dTHETA SYMBOL cCAPITAL A dB dC dD
  dE dF dG dH dI dJ dK dL dM dN dO dP dQ dR dS dT dU dV dW dX dY dZ cDIGIT EIGHT dFIVE dFOUR dNINE
  dONE dSEVEN dSIX dTHREE dTWO dZERO cITALIC CAPITAL A eB eC eD eE eF eG eH eI eJ eK eL eM eN eO eP
  eQ eR eS eT eU eV eW eX eY eZ dSMALL A eB eC eD eE eF eG eH eI eJ eK eL eM eN eO eP eQ eR eS eT
  eU eV eW eX eY eZ cSMALL A dB dC dD dE dF dG dH dI dJ dK dL dM dN dO dP dQ dR dS dT dU dV dW dX
  dY dZ bSCRIPT CAPITAL A dC dD dG dJ dK dN dO dP dQ dS dT dU dV dW dX dY dZ cSMALL A dB dC dD dF
  dH dI dJ dK dL dM dN dP dQ dR dS dT dU dV dW dX dY dZ aMAXIMIZE aMAYAN NUMERAL EIGHT cEIGHTEEN
  cELEVEN cFIFTEEN cFIVE cFOUR cFOURTEEN cNINE cNINETEEN cONE cSEVEN cSEVENTEEN cSIX cSIXTEEN cTEN
  cTHIRTEEN cTHREE cTWELVE cTWO cZERO aMEASURED ANGLE cOPENING LEFT cWITH OPEN ARM ENDING IN ARROW
  POINTING DOWN AND LEFT lRIGHT jLEFT AND DOWN lUP jRIGHT AND DOWN lUP jUP AND LEFT lRIGHT bBY
  bRIGHT ANGLE WITH DOT aMEAT ON BONE aMECHANICAL ARM bLEG aMEDEFAIDRIN CAPITAL LETTER A dAI dATIU
  dB dC dD dE dF dG dH dHP dI dJ dK dKP dL dM dN dNG dNY dO dOE dP dQ dR dS dT dU dV dW dX dY dYU
  dZ bCOMMA bDIGIT EIGHT cFIVE cFOUR cNINE cONE dALTERNATE FORM cSEVEN cSIX cTHREE dALTERNATE FORM
  cTWO dALTERNATE FORM cZERO bEXCLAMATION OH bFULL STOP bNUMBER EIGHTEEN cELEVEN cFIFTEEN cFOURTEEN
  cNINETEEN cSEVENTEEN cSIXTEEN cTEN cTHIRTEEN cTWELVE bSMALL LETTER A dAI dATIU dB dC dD dE dF dG
  dH dHP dI dJ dK dKP dL dM dN dNG dNY dO dOE dP dQ dR dS dT dU dV dW dX dY dYU dZ bSYMBOL AIVA
  aMEDIEVAL COMMA bEXCLAMATION MARK bQUESTION MARK aMEDIUM BLACK CIRCLE bBOLD WHITE CIRCLE bEIGHT
  POINTED BLACK STAR cSPOKED ASTERISK bFIVE SPOKED ASTERISK bFLATTENED LEFT PARENTHESIS ORNAMENT
  cRIGHT PARENTHESIS ORNAMENT bFOUR POINTED BLACK STAR dPINWHEEL STAR bGREEK CROSS bLEFT CURLY
  BRACKET ORNAMENT cPARENTHESIS ORNAMENT bLEFT-POINTING ANGLE BRACKET ORNAMENT bMATHEMATICAL SPACE
  bRIGHT CURLY BRACKET ORNAMENT cPARENTHESIS ORNAMENT bRIGHT-POINTING ANGLE BRACKET ORNAMENT
  bSALTIRE bSHADE bSIX POINTED BLACK STAR cSPOKED ASTERISK bSMALL WHITE CIRCLE bTHREE POINTED BLACK
  STAR dPINWHEEL STAR bVERTICAL BAR bWHITE CIRCLE cSQUARE aMEETEI MAYEK AHANG KHUDAM cANJI cAPUN
  IYEK cCHEIKHAN cCHEIKHEI cDIGIT EIGHT dFIVE dFOUR dNINE dONE dSEVEN dSIX dTHREE dTWO dZERO
  cLETTER ATIYA dBA dBHAM dCHA dCHIL dDDA dDDHA dDHOU dDIL dE dGHOU dGOK dHUK dI eLONSUM dJHAM dJIL
  dKHOU dKOK eLONSUM dLAI eLONSUM dMIT eLONSUM dNA eLONSUM dNGOU eLONSUM dNNA dNYA dO dPA eLONSUM
  dPHAM dRAI dSAM dSHA dSSA dTHOU dTIL eLONSUM dTTA dTTHA dUN dWAI dYANG cLUM IYEK cSYLLABLE
  REPETITION MARK cVIRAMA cVOWEL SIGN AAI eAAU eANAP eAU eCHEINAP eII eINAP eNUNG eONAP eSOUNAP
  eUNAP eUU eVISARGA eYENAP cWORD REPETITION MARK aMELON aMELTING FACE aMEMO aMENDE KIKAKUI
  COMBINING NUMBER HUNDRED THOUSANDS eHUNDREDS eMILLIONS eTEENS eTEN THOUSANDS eTENS eTHOUSANDS
  cDIGIT EIGHT dFIVE dFOUR dNINE dONE dSEVEN dSIX dTHREE dTWO cSYLLABLE M001 KI dM002 KA dM003 KU
  dM004 WI dM005 WA dM006 WU dM007 MIN dM008 MAN dM009 MUN dM010 BI dM011 BA dM012 BU dM013 I dM014
  A dM015 U dM016 DI dM017 DA dM018 DU dM019 SI dM020 SA dM021 SU dM022 TI dM023 TA dM024 TU dM025
  LI dM026 LA dM027 LU dM028 JI dM029 JA dM030 JU dM031 YI dM032 YA dM033 YU dM034 FI dM035 FA
  dM036 FU dM037 NIN dM038 NAN dM039 NUN dM040 HEE dM041 HA dM042 HOO dM043 NGGA dM044 KPEE dM045
  WO dM046 HUAN dM047 MBEE dM048 KO dM049 WVA dM050 PU dM051 PE dM052 HEN dM053 HIN dM054 LOO dM055
  TE dM056 GBA dM057 NGON dM058 NYAN dM059 MEN dM060 NYON dM061 WVI dM062 MBA dM063 JO dM064 NDO
  dM065 KEE dM066 PO dM067 NDOO dM068 PI dM069 TO dM070 GBO dM071 GBOO dM072 MBE dM073 LE dM074 KPU
  dM075 FE dM076 KOO dM077 VO dM078 FEE dM079 SO dM080 YE dM081 PEE dM082 NGGU dM083 HEEI dM084 LEE
  dM085 VE dM086 LONG NGGE dM087 HUN dM088 FO dM089 DEE dM090 NGGI dM091 TEE dM092 KPA dM093 GBEE
  dM094 MON dM095 KE dM096 HE dM097 BE dM098 NYEN dM099 PA dM100 E dM101 FAN dM102 POO dM103 BOO
  dM104 TOO dM105 LONG MBOO dM106 LONG NGGOO dM107 GBE dM108 KPE dM109 YEE dM110 LONG LE dM111 GA
  dM112 KPOO dM113 JE dM114 WOO dM115 NGGEE dM116 SE dM117 NEN dM118 WE dM119 NDE dM120 NGGO dM121
  YO dM122 MBU dM123 NDI dM124 GBI dM125 NDU dM126 WEE dM127 NGGUA dM128 HOOU dM129 NDA dM130 HAN
  dM131 IN dM132 KPI dM133 FOO dM134 NJOO dM135 IN dM136 SOO dM137 EI dM138 BO dM139 WVE dM140 HO
  dM141 YOO dM142 LONG MBO dM143 WEI dM144 VOO dM145 MBI dM146 NGGE dM147 O dM148 GBU dM149 NJEE
  dM150 BEE dM151 VU dM152 NJA dM153 LO dM154 MUAN dM155 GI dM156 NGGOO dM157 JEE dM158 KPO dM159
  NGGAA dM160 JOO dM161 LONG MBE dM162 SEE dM163 EE dM164 NYIN dM165 OO dM166 GUEI dM167 GUAN dM168
  GU dM169 NON dM170 NYUN dM171 RA dM172 MBOO dM173 VEE dM174 MBO dM175 LONG JO dM176 HI dM177
  NGUAN dM178 EN dM179 KUA dM180 DOO dM181 DO dM182 VI dM183 LONG NGGO dM184 NGEN dM185 VA dM186 HU
  dM187 MBUU dM188 MBEE dM189 MUEN dM190 GEE dM191 NDEE dM192 NJU dM193 HON dM194 WUI dM195 AN
  dM196 SIA dM197 FUA aMENORAH WITH NINE BRANCHES aMENS SYMBOL aMERCURY aMEROITIC CURSIVE FRACTION
  EIGHT TWELFTHS dELEVEN TWELFTHS dFIVE TWELFTHS dFOUR TWELFTHS dNINE TWELFTHS dONE HALF eTWELFTH
  dSEVEN TWELFTHS dSIX TWELFTHS dTEN TWELFTHS dTHREE TWELFTHS dTWO TWELFTHS cLETTER A dARCHAIC SA
  dBA dDA dE dHHA dI dKA dKHA dLA dMA dNA dNE dO dPA dQA dRA dSA dSE dTA dTE dTO dWA dYA cLOGOGRAM
  IMN dRMT cNUMBER EIGHT eHUNDRED fTHOUSAND eTHOUSAND dEIGHTY THOUSAND dFIFTY eTHOUSAND dFIVE
  eHUNDRED fTHOUSAND eTHOUSAND dFORTY eTHOUSAND dFOUR eHUNDRED fTHOUSAND eTHOUSAND dNINE eHUNDRED
  fTHOUSAND eTHOUSAND dNINETY THOUSAND dONE eHUNDRED fTHOUSAND eTHOUSAND dSEVEN eHUNDRED fTHOUSAND
  eTHOUSAND dSEVENTY eTHOUSAND dSIX eHUNDRED fTHOUSAND eTHOUSAND dSIXTY eTHOUSAND dTEN eTHOUSAND
  dTHIRTY eTHOUSAND dTHREE eHUNDRED fTHOUSAND eTHOUSAND dTWENTY eTHOUSAND dTWO eHUNDRED fTHOUSAND
  eTHOUSAND bHIEROGLYPHIC LETTER A dBA dBA-2 dDA dE dHHA dI dKA dKHA dLA dMA dNA dNA-2 dNE dNE-2 dO
  dPA dQA dRA dRA-2 dSA dSA-2 dSE dTA dTA-2 dTE dTE-2 dTO dWA dYA cSYMBOL VIDJ dVIDJ-2 aMERPERSON
  aMESSAGE WAITING aMETRICAL BREVE bLONG OVER SHORT dTWO SHORTS bPENTASEME bSHORT OVER LONG
  bTETRASEME bTRISEME bTWO SHORTS JOINED dOVER LONG aMETRO aMIAO LETTER AH cARCHAIC MA dNA dNGA
  dZZA cBA cBRI cDA cDDA cDLHA cDLHYA cDZA cDZHA cDZYI cDZZA cFA cGA cGHA cGHHA cHA cHHA cKA cLA
  cLHA cLHYA cLYA cMA cMHA cNA cNASALIZATION cNGA cNGHA cNHA cNNA cNNHA cNYA cNYHA cPA cPLA cQA
  cQGA cREFORMED TONE-1 dTONE-2 dTONE-4 dTONE-5 dTONE-6 dTONE-8 dTSHA cRTE cSA cSHA cSSA cSYI cTA
  cTE cTLHA cTLHYA cTONE-2 cTONE-3 cTONE-4 cTONE-5 cTONE-6 cTONE-7 cTONE-8 cTSA cTSE cTSHA cTSSA
  cTTA cVA cVFA cWA cXA cYI DZHA dKA dNNA dPA dTA dTSA dTSHA dTTA cZA cZHA cZSA cZSHA cZZA cZZSA
  cZZSYA cZZYA bSIGN ASPIRATION cCONSONANT MODIFIER BAR cREFORMED ASPIRATION dVOICING bTONE ABOVE
  cBELOW cRIGHT cTOP RIGHT bVOWEL SIGN A dAA dAE dAEE dAHH dAI dAN dANG dAU dE dEA dEI dEN dENG dER
  dERR dI dIA dIAN dIANG dIE dIG dII dING dIO dIONG dIU dN dNG dO dOER dOEY dOG dOO dOU dROUNDED ER
  eERR dU dUA dUAN dUANG dUEI dUI dUNG dUOG dUU dVW dW dWO dY dYI dYUI aMICR DASH SYMBOL bON US
  SYMBOL aMICRO SIGN aMICROBE aMICROPHONE aMICROSCOPE aMIDDLE DOT bTHIRD WHITE RIGHT POINTING INDEX
  aMIDLINE HORIZONTAL ELLIPSIS aMILITARY HELMET bMEDAL aMILKY WAY aMILL SIGN aMINIBUS aMINIDISC
  aMINIMIZE aMINUS SIGN cIN TRIANGLE cWITH COMMA ABOVE dDOT BELOW dFALLING DOTS dRISING DOTS bTILDE
  aMINUS-OR-PLUS SIGN aMINY aMIRROR bBALL aMMSP aMOBILE PHONE cOFF cWITH RIGHTWARDS ARROW AT LEFT
  aMODELS aMODERN PENTATHLON aMODI ABBREVIATION SIGN bDANDA bDIGIT EIGHT cFIVE cFOUR cNINE cONE
  cSEVEN cSIX cTHREE cTWO cZERO bDOUBLE DANDA bLETTER A cAA cAI cAU cBA cBHA cCA cCHA cDA cDDA
  cDDHA cDHA cE cGA cGHA cHA cI cII cJA cJHA cKA cKHA cLA cLLA cMA cNA cNGA cNNA cNYA cO cPA cPHA
  cRA cSA cSHA cSSA cTA cTHA cTTA cTTHA cU cUU cVA cVOCALIC L dLL dR dRR cYA bSIGN ANUSVARA
  cARDHACANDRA cHUVA cVIRAMA cVISARGA bVOWEL SIGN AA dAI dAU dE dI dII dO dU dUU dVOCALIC L eLL eR
  eRR aMODIFIER BREVE WITH INVERTED BREVE bLETTER ACUTE ACCENT cALVEOLAR CLICK cAPOSTROPHE cBEGIN
  HIGH TONE dLOW TONE cBILABIAL CLICK cCAPITAL A dAE dB dBARRED B dC dD dE dF dG dH eWITH STROKE dI
  dJ dK dL dM dN dO dOU dP dQ dR dREVERSED E eN dT dU dV dW cCENTRED LEFT HALF RING dRIGHT HALF
  RING cCHINESE TONE YANG PING fQU fRU fSHANG eYIN PING fQU fRU fSHANG cCIRCUMFLEX ACCENT cCOLON
  cCROSS ACCENT cCYRILLIC EN dHARD SIGN dSOFT SIGN cDENTAL CLICK cDOT HORIZONTAL BAR dSLASH
  dVERTICAL BAR cDOUBLE APOSTROPHE dPRIME cDOWN ARROWHEAD dTACK cEND HIGH TONE dLOW TONE
  cEXTRA-HIGH DOTTED LEFT-STEM TONE BAR eTONE BAR dLEFT-STEM TONE BAR dTONE BAR cEXTRA-LOW DOTTED
  LEFT-STEM TONE BAR eTONE BAR dLEFT-STEM TONE BAR dTONE BAR cGEORGIAN NAR cGLOTTAL STOP eWITH
  STROKE cGRAVE ACCENT cHALF TRIANGULAR COLON cHIGH DOTTED LEFT-STEM TONE BAR eTONE BAR dLEFT-STEM
  TONE BAR dTONE BAR cLATERAL CLICK cLEFT ARROWHEAD dHALF RING dTACK cLOW ACUTE ACCENT dCIRCUMFLEX
  ACCENT dDOTTED LEFT-STEM TONE BAR eTONE BAR dDOWN ARROWHEAD dGRAVE ACCENT dINVERTED EXCLAMATION
  MARK dLEFT ARROW eARROWHEAD dLEFT-STEM TONE BAR dMACRON dRIGHT ARROWHEAD dRING dTILDE dTONE BAR
  dUP ARROWHEAD dVERTICAL LINE cLOWER RIGHT CORNER ANGLE cMACRON cMID DOTTED LEFT-STEM TONE BAR
  eTONE BAR dLEFT-STEM TONE BAR dTONE BAR cMIDDLE DOUBLE ACUTE ACCENT eGRAVE ACCENT dGRAVE ACCENT
  cMINUS SIGN cOPEN SHELF cPLUS SIGN cPRIME cRAISED COLON dDOWN ARROW dEXCLAMATION MARK dINVERTED
  EXCLAMATION MARK dUP ARROW cRETROFLEX CLICK WITH RETROFLEX HOOK cREVERSED COMMA dGLOTTAL STOP
  fWITH STROKE cRHOTIC HOOK cRIGHT ARROWHEAD dHALF RING dTACK cSHELF cSHORT EQUALS SIGN cSMALL A
  dAE dAIN dALPHA dB eWITH HOOK dBARRED O dBETA dBOTTOM HALF O dC eWITH CURL dCAPITAL AA eB eG
  fWITH HOOK eH eI fWITH STROKE eINVERTED R eL fWITH BELT eN eOE eR eU eY dCHI dCLOSED OMEGA
  eREVERSED OPEN E dD eWITH HOOK gAND TAIL fTAIL dDELTA dDEZH DIGRAPH dDOTLESS J WITH STROKE hAND
  HOOK dDZ DIGRAPH fWITH CURL gRETROFLEX HOOK dE dENG dESH dETH dEZH dF dFENG DIGRAPH dG eWITH HOOK
  dGAMMA dGREEK GAMMA ePHI dH eWITH HOOK fSTROKE dHENG eWITH HOOK dI WITH STROKE dIOTA dJ eWITH
  CROSSED-TAIL dK dL eWITH BELT fINVERTED LAZY S fMIDDLE TILDE fPALATAL HOOK fRETROFLEX HOOK hAND
  BELT dLEZH eWITH RETROFLEX HOOK dLIGATURE OE dLS DIGRAPH dLZ DIGRAPH dM eWITH HOOK dN WITH LEFT
  HOOK fRETROFLEX HOOK dO eWITH STROKE dOPEN E eO dP dPHI dQ dR eWITH FISHHOOK fTAIL dRAMS HORN
  dREVERSED E eGLOTTAL STOP eOPEN E dS eWITH CURL fHOOK dSCHWA dSCRIPT G dSIDEWAYS U dT eWITH
  PALATAL HOOK fRETROFLEX HOOK dTC DIGRAPH WITH CURL dTESH DIGRAPH dTHETA dTOP HALF O dTS DIGRAPH
  fWITH RETROFLEX HOOK dTURNED A eAE eALPHA eH eI eM fWITH LONG LEG eOPEN E eR fWITH HOOK gLONG LEG
  iAND RETROFLEX HOOK eV eW eY fWITH BELT dU eBAR eWITH LEFT HOOK dUPSILON dV eWITH HOOK fRIGHT
  HOOK dW dX dY dZ eWITH CURL fRETROFLEX HOOK cSTRESS AND HIGH TONE eLOW TONE cSUPERSCRIPT HALF
  TRIANGULAR COLON dTRIANGULAR COLON cTRIANGULAR COLON cTURNED COMMA cUNASPIRATED cUP ARROWHEAD
  dTACK cUS cVERTICAL LINE cVOICING cYANG DEPARTING TONE MARK cYIN DEPARTING TONE MARK aMODULO TWO
  SUM aMONEY BAG bWITH WINGS aMONEY-MOUTH FACE aMONGOLIAN BIRGA cWITH DOUBLE ORNAMENT dORNAMENT
  bCOLON bCOMMA bDIGIT EIGHT cFIVE cFOUR cNINE cONE cSEVEN cSIX cTHREE cTWO cZERO bDOUBLE BIRGA
  WITH ORNAMENT bELLIPSIS bFOUR DOTS bFREE VARIATION SELECTOR FOUR eONE eTHREE eTWO bFULL STOP
  bINVERTED BIRGA dWITH DOUBLE ORNAMENT bLETTER A cALI GALI A eAH eANUSVARA ONE eBALUDA eCA eDA
  eDAGALGA eDAMARU eDDA eHALF U fYA eI eINVERTED UBADAMA eKA eNGA eNNA ePA ePHA eSSA eTA eTHREE
  BALUDA eTTA eTTHA eUBADAMA eVISARGA ONE eZA eZHA cANG cBA cCHA dWITH TWO DOTS cCHI cDA cE cEE cFA
  cGA cHAA cI cJA cKA cKHA cLA cLHA cMA cMANCHU ALI GALI BHA fCA fCYA fDDHA fDHA fGHA fJHA fLHA
  fNGA fSSA fTA fTTA fZA fZHA dFA dI dKA dRA dZHA cNA cO cOE cPA cQA cRA cSA cSHA cSIBE ANG dCHA
  dDA dE dFA dGA dGAA dHA dHAA dI dIY dJA dKA dPA dRAA dSHA dTA dTSA dU dUE dZA dZHA cTA cTODO ALI
  GALI TA fZHA dANG dBA dCHA dDA dDZA dE dGA dGAA dHAA dI dJA dJIA dKA dLONG VOWEL SIGN dMA dNIA dO
  dOE dPA dQA dTA dTSA dU dUE dWA dYA cTSA cU cUE cWA cYA cZA cZHI cZRA bMANCHU COMMA cFULL STOP
  bNIRUGU bROTATED BIRGA dWITH DOUBLE ORNAMENT eORNAMENT bSIBE SYLLABLE BOUNDARY MARKER bSWIRL
  BIRGA dWITH DOUBLE ORNAMENT eORNAMENT bTODO SOFT HYPHEN bTRIPLE BIRGA WITH ORNAMENT bTURNED SWIRL
  BIRGA WITH DOUBLE ORNAMENT bVOWEL SEPARATOR aMONKEY bFACE aMONOGRAM FOR EARTH cYANG cYIN
  aMONORAIL aMONOSTABLE SYMBOL aMOOD BUBBLE aMOON CAKE bVIEWING CEREMONY aMOSQUE aMOSQUITO aMOTHER
  CHRISTMAS aMOTOR BOAT bSCOOTER aMOTORIZED WHEELCHAIR aMOTORWAY aMOUNT FUJI aMOUNTAIN bBICYCLIST
  bCABLEWAY bRAILWAY aMOUSE bFACE bTRAP aMOUTH aMOVIE CAMERA aMOYAI aMRO DANDA bDIGIT EIGHT cFIVE
  cFOUR cNINE cONE cSEVEN cSIX cTHREE cTWO cZERO bDOUBLE DANDA bLETTER A cBA cCHU cDA cDAI cE cEA
  cHAI cHAO cKEAAE cKHAI cKO cLA cLAN cMAEM cMIM cNGI cNIN cO cOL cOO cPA cPHI cRI cRO cSHI cTA
  cTEK cTHEA cWA cYO aMUCH GREATER-THAN bLESS-THAN aMULTANI LETTER A cBA cBHA cCA cCHA cDA cDDA
  cDDDA cDDHA cDHA cE cGA cGHA cHA cI cJA cJJA cKA cKHA cLA cMA cNA cNNA cNYA cPA cPHA cRA cRHA
  cRRA cSA cTA cTHA cTTA cTTHA cU cVA cYA bSECTION MARK aMULTIMAP aMULTIPLE MUSICAL NOTES
  aMULTIPLICATION SIGN cIN DOUBLE CIRCLE dLEFT HALF CIRCLE dRIGHT HALF CIRCLE dTRIANGLE cWITH DOT
  ABOVE dUNDERBAR bX aMULTISET bMULTIPLICATION bUNION aMUSHROOM aMUSIC FLAT SIGN bNATURAL SIGN
  bSHARP SIGN aMUSICAL KEYBOARD cWITH JACKS bNOTE bSCORE bSYMBOL ARPEGGIATO DOWN dUP cBEGIN BEAM
  dPHRASE dSLUR dTIE cBRACE cBRACKET cBREATH MARK cBREVE cBREVIS dREST cC CLEF cCAESURA cCIRCLE X
  NOTEHEAD cCLIMACUS cCLIVIS cCLUSTER NOTEHEAD BLACK eWHITE cCODA cCOMBINING ACCENT
  dACCENT-STACCATO dAUGMENTATION DOT dBEND dDOIT dDOUBLE TONGUE dDOWN BOW dFLAG-1 dFLAG-2 dFLAG-3
  dFLAG-4 dFLAG-5 dFLIP dHARMONIC dLOURE dMARCATO dMARCATO-STACCATO dRIP dSMEAR dSNAP PIZZICATO
  dSPRECHGESANG STEM dSTACCATISSIMO dSTACCATO dSTEM dTENUTO dTREMOLO-1 dTREMOLO-2 dTREMOLO-3
  dTRIPLE TONGUE dUP BOW cCOMMON TIME cCRESCENDO cCROIX cCUT TIME cDA CAPO cDAL SEGNO cDAMP dALL
  cDASHED BARLINE cDECRESCENDO cDEGREE SLASH cDOUBLE BARLINE dFLAT dSHARP cDRUM CLEF-1 dCLEF-2
  cEIGHTH NOTE dREST cEND BEAM dOF STIMME dPHRASE dSLUR dTIE cF CLEF eOTTAVA ALTA fBASSA cFERMATA
  dBELOW cFINAL BARLINE cFINGERED TREMOLO-1 dTREMOLO-2 dTREMOLO-3 cFIVE-LINE STAFF cFLAT DOWN dUP
  cFORTE cFOUR-LINE STAFF cFOUR-STRING FRETBOARD cFUSA BLACK dWHITE cG CLEF eOTTAVA ALTA fBASSA
  cGLISSANDO DOWN dUP cGRACE NOTE NO SLASH eSLASH cGREGORIAN C CLEF dF CLEF cHALF NOTE dPEDAL MARK
  dREST cHAUPTSTIMME cINVERTED TURN cKIEVAN C CLEF dEIGHTH NOTE STEM DOWN gUP dEND OF PIECE dFINAL
  NOTE dFLAT SIGN dHALF NOTE dQUARTER NOTE STEM DOWN gUP dRECITATIVE MARK dWHOLE NOTE cKORON cLEFT
  REPEAT SIGN cLONGA dIMPERFECTA REST dPERFECTA REST cMAXIMA cMEZZO cMINIMA dBLACK dREST cMOON
  NOTEHEAD BLACK eWHITE cMULTI REST cMULTIPLE MEASURE REST cNATURAL DOWN dUP cNEBENSTIMME cNOTEHEAD
  BLACK cNULL NOTEHEAD cONE HUNDRED TWENTY-EIGHTH NOTE fREST cONE-LINE STAFF cORNAMENT STROKE-1
  dSTROKE-10 dSTROKE-11 dSTROKE-2 dSTROKE-3 dSTROKE-4 dSTROKE-5 dSTROKE-6 dSTROKE-7 dSTROKE-8
  dSTROKE-9 cOTTAVA ALTA dBASSA cPARENTHESIS NOTEHEAD cPEDAL MARK dUP MARK cPES SUBPUNCTIS cPIANO
  cPLUS NOTEHEAD cPODATUS cPORRECTUS dFLEXUS cQUARTER NOTE dREST dTONE FLAT eSHARP cQUINDICESIMA
  ALTA dBASSA cREPEAT DOTS cREPEATED FIGURE-1 dFIGURE-2 dFIGURE-3 cREVERSE FINAL BARLINE cRIGHT
  REPEAT SIGN cRINFORZANDO cSCANDICUS dFLEXUS cSEGNO cSEMIBREVIS BLACK dREST dWHITE cSEMIMINIMA
  BLACK dREST dWHITE cSHARP DOWN dUP cSHORT BARLINE cSINGLE BARLINE cSIX-LINE STAFF cSIX-STRING
  FRETBOARD cSIXTEENTH NOTE dREST cSIXTY-FOURTH NOTE dREST cSORI cSQUARE B dNOTEHEAD BLACK eWHITE
  cSUBITO cTEMPUS IMPERFECTUM CUM PROLATIONE IMPERFECTA hDIMINUTION-1 hDIMINUTION-2 hDIMINUTION-3
  gPERFECTA dPERFECTUM CUM PROLATIONE IMPERFECTA gPERFECTA hDIMINUTION-1 cTHIRTY-SECOND NOTE dREST
  cTHREE-LINE STAFF cTORCULUS dRESUPINUS cTR cTRIANGLE NOTEHEAD DOWN BLACK fWHITE eLEFT BLACK
  fWHITE eRIGHT BLACK fWHITE eUP BLACK fRIGHT BLACK gWHITE fWHITE cTRIANGLE-ROUND NOTEHEAD DOWN
  BLACK fWHITE cTURN dSLASH dUP cTWO-LINE STAFF cVIRGA cVOID NOTEHEAD cWHOLE NOTE dREST cWITH
  FINGERNAILS cX NOTEHEAD cZ aMVS aMW aMYANMAR CONSONANT SIGN MEDIAL HA eRA eWA eYA dMON MEDIAL LA
  fMA fNA dSHAN MEDIAL WA bDIGIT EIGHT cFIVE cFOUR cNINE cONE cSEVEN cSIX cTHREE cTWO cZERO bLETTER
  A cAITON RA cAU cBA cBHA cCA cCHA cDA cDDA cDDHA cDHA cE cEASTERN PWO KAREN GHWA fNNA fYWA cGA
  cGHA cGREAT SA cHA cI cII cJA cJHA cKA cKHA cKHAMTI CA dCHA dDDA dDDHA dDHA dFA dGA dHA dHHA dJA
  dJHA dLLA dNA dNYA dRA dSA dTTA dTTHA dXA dZA cLA cLLA cMA cMON BBA dBBE dE dJHA dNGA cNA cNGA
  cNNA cNNYA cNYA cO cPA cPHA cRA cRUMAI PALAUNG FA cSA cSGAW KAREN SHA cSHA cSHAN A dBA dBHA dCA
  dCHA dDA dFA dGA dGHA dHA dJHA dKA dKHA dNA dNNA dNYA dPHA dTHA dZA cSHWE PALAUNG CHA eSHA cSSA
  cTA cTAI LAING BA eBHA eDA eDDA eDDHA eDHA eFA eGA eGHA eJA eJHA eLLA eNNA eNYA cTHA cTTA cTTHA
  cU cUU cVOCALIC L dLL dR dRR cWA cWESTERN PWO KAREN PWA fTHA cYA bLOGOGRAM KHAMTI HM dOAY dQN
  bMODIFIER LETTER KHAMTI REDUPLICATION dSHAN REDUPLICATION bSHAN DIGIT EIGHT dFIVE dFOUR dNINE
  dONE dSEVEN dSIX dTHREE dTWO dZERO bSIGN ANUSVARA cASAT cDOT BELOW cKHAMTI TONE-1 dTONE-3 cLITTLE
  SECTION cPAO KAREN TONE cRUMAI PALAUNG TONE-5 cSECTION cSHAN COUNCIL EMPHATIC TONE eTONE-2
  eTONE-3 dSAW dTONE-2 dTONE-3 dTONE-5 dTONE-6 cTAI LAING TONE-2 eTONE-5 cVIRAMA cVISARGA cWESTERN
  PWO KAREN TONE-1 fTONE-2 fTONE-3 fTONE-4 fTONE-5 bSYMBOL AFOREMENTIONED cAITON EXCLAMATION dONE
  dTWO cCOMPLETED cGENITIVE cLOCATIVE cSHAN EXCLAMATION dONE bTAI LAING DIGIT EIGHT eFIVE eFOUR
  eNINE eONE eSEVEN eSIX eTHREE eTWO eZERO bTONE MARK SGAW KAREN HATHI fKE PHO bVOWEL SIGN AA dAI
  dAITON A eAI dE eABOVE dGEBA KAREN I dI dII dKAYAH EE eOE eU dMON II eO dSGAW KAREN EU dSHAN AA
  eE fABOVE eFINAL Y dTALL AA dU dUU dVOCALIC L eLL eR eRR dWESTERN PWO KAREN EU gUE aN-ARY CIRCLED
  DOT OPERATOR cPLUS OPERATOR cTIMES OPERATOR bCOPRODUCT bINTERSECTION bLOGICAL AND cOR bPRODUCT
  bSQUARE INTERSECTION OPERATOR cUNION OPERATOR bSUMMATION bTIMES OPERATOR bUNION cOPERATOR WITH
  DOT ePLUS bWHITE VERTICAL BAR aNABATAEAN CRUCIFORM NUMBER FOUR bLETTER ALEPH cAYIN cBETH cDALETH
  cFINAL ALEPH dBETH dHE dKAPH dLAMEDH dMEM dNUN dSHIN dYODH cGIMEL cHE cHETH cKAPH cLAMEDH cMEM
  cNUN cPE cQOPH cRESH cSADHE cSAMEKH cSHIN cTAW cTETH cWAW cYODH cZAYIN bNUMBER FIVE cFOUR cONE
  dHUNDRED cTEN cTHREE cTWENTY cTWO aNABLA aNAIL POLISH aNAIRA SIGN aNAK aNAME BADGE aNAND
  aNANDINAGARI HEADSTROKE bLETTER A cAA cAI cAU cBA cBHA cCA cCHA cDA cDDA cDDHA cDHA cE cGA cGHA
  cHA cI cII cJA cJHA cKA cKHA cLA cLLA cMA cNA cNGA cNNA cNYA cO cPA cPHA cRA cRRA cSA cSHA cSSA
  cTA cTHA cTTA cTTHA cU cUU cVA cVOCALIC R dRR cYA bSIGN ANUSVARA cAVAGRAHA cSIDDHAM cVIRAMA
  cVISARGA bVOWEL SIGN AA dAI dAU dE dI dII dO dPRISHTHAMATRA E dU dUU dVOCALIC R eRR aNARROW
  NO-BREAK SPACE aNATIONAL DIGIT SHAPES bPARK aNAUSEATED FACE aNAZAR AMULET aNBH aNBSP aNECKTIE
  aNEGATED DOUBLE VERTICAL BAR DOUBLE RIGHT TURNSTILE aNEGATIVE ACKNOWLEDGE bCIRCLED DIGIT ZERO
  cLATIN CAPITAL LETTER A fB fC fD fE fF fG fH fI fJ fK fL fM fN fO fP fQ fR fS fT fU fV fW fX fY
  fZ cNUMBER EIGHTEEN dELEVEN dFIFTEEN dFOURTEEN dNINETEEN dSEVENTEEN dSIXTEEN dTHIRTEEN dTWELVE
  dTWENTY cSQUARE cTRIANGLE bDIAGONAL CROSS cDIAMOND cMIDDLE RIGHT TO LOWER CENTRE bSQUARED AB
  cCROSS MARK cIC cLATIN CAPITAL LETTER A fB fC fD fE fF fG fH fI fJ fK fL fM fN fO fP fQ fR fS fT
  fU fV fW fX fY fZ cPA cQUESTION MARK cSA cWC aNEITHER A SUBSET OF NOR EQUAL TO cSUPERSET OF NOR
  EQUAL TO bAPPROXIMATELY NOR ACTUALLY EQUAL TO bGREATER-THAN NOR EQUAL TO dEQUIVALENT TO
  dLESS-THAN bLESS-THAN NOR EQUAL TO dEQUIVALENT TO dGREATER-THAN aNEL aNEPTUNE bFORM TWO aNERD
  FACE aNESSUS aNEST WITH EGGS aNESTING DOLLS aNEUTER aNEUTRAL CHESS BISHOP dROTATED NINETY DEGREES
  eTWO HUNDRED SEVENTY DEGREES cEQUIHOPPER dROTATED NINETY DEGREES cKING dROTATED NINETY DEGREES
  eTWO HUNDRED SEVENTY DEGREES cKNIGHT dROTATED FORTY-FIVE DEGREES eNINETY DEGREES eONE HUNDRED
  THIRTY-FIVE DEGREES eTHREE HUNDRED FIFTEEN DEGREES eTWO HUNDRED SEVENTY DEGREES gTWENTY-FIVE
  DEGREES cPAWN dROTATED NINETY DEGREES eTWO HUNDRED SEVENTY DEGREES cQUEEN dROTATED NINETY DEGREES
  eTWO HUNDRED SEVENTY DEGREES cROOK dROTATED NINETY DEGREES eTWO HUNDRED SEVENTY DEGREES cTURNED
  BISHOP dKING dKNIGHT dPAWN dQUEEN dROOK bFACE aNEW LINE bMOON SYMBOL cWITH FACE bSHEQEL SIGN bTAI
  LUE DIGIT EIGHT eFIVE eFOUR eNINE eONE eSEVEN eSIX eTHREE eTWO eZERO dLETTER FINAL B fD fK fM fN
  fNG fV eHIGH BA fDA fFA fHA fKA fKVA fLA fMA fNA fNGA fPA fPHA fQA fSA fSUA fTA fTHA fTSA fVA fXA
  fXVA fYA eLOW BA fDA fFA fHA fKA fKVA fLA fMA fNA fNGA fPA fPHA fQA fSA fSUA fTA fTHA fTSA fVA
  fXA fXVA fYA dSIGN LAE eLAEV dTHAM DIGIT ONE dTONE MARK-1 eMARK-2 dVOWEL SIGN AA fAAY fAE fAY fE
  fII fIY fO fOA fOAY fOY fU fUE fUEY fUU fUY fVOWEL SHORTENER aNEWA ABBREVIATION SIGN bCOMMA
  bDANDA bDIGIT EIGHT cFIVE cFOUR cNINE cONE cSEVEN cSIX cTHREE cTWO cZERO bDOUBLE COMMA cDANDA
  bGAP FILLER bINSERTION SIGN bLETTER A cAA cAI cAU cBA cBHA cCA cCHA cDA cDDA cDDHA cDHA cE cGA
  cGHA cHA cI cII cJA cJHA cKA cKHA cLA cLHA cMA cMHA cNA cNGA cNGHA cNHA cNNA cNYA cNYHA cO cPA
  cPHA cRA cRHA cSA cSHA cSSA cTA cTHA cTTA cTTHA cU cUU cVEDIC ANUSVARA cVOCALIC L dLL dR dRR cWA
  cYA bOM bPLACEHOLDER MARK bSANDHI MARK bSIDDHI bSIGN ANUSVARA cAVAGRAHA cCANDRABINDU cFINAL
  ANUSVARA cJIHVAMULIYA cNUKTA cUPADHMANIYA cVIRAMA cVISARGA bVOWEL SIGN AA dAI dAU dE dI dII dO dU
  dUU dVOCALIC L eLL eR eRR aNEWLINE LEFT bRIGHT aNEWSPAPER aNEXT LINE bPAGE aNIGHT WITH STARS
  aNINJA aNKO COMBINING DOUBLE DOT ABOVE cLONG DESCENDING TONE dHIGH TONE dLOW TONE dRISING TONE
  cNASALIZATION MARK cSHORT HIGH TONE dLOW TONE dRISING TONE bCOMMA bDANTAYALAN bDIGIT EIGHT cFIVE
  cFOUR cNINE cONE cSEVEN cSIX cTHREE cTWO cZERO bDOROME SIGN bEXCLAMATION MARK bHIGH TONE
  APOSTROPHE bLAJANYALAN bLETTER A cBA cCHA cDA cDAGBASINNA cE cEE cFA cGBA cHA cI cJA cJONA CHA
  dJA dRA cKA cLA cMA cN cNA dWOLOSO cNYA dWOLOSO cO cOO cPA cRA cRRA cSA cTA cU cWA cYA bLOW TONE
  APOSTROPHE bSYMBOL GBAKURUNEN cOO DENNEN bTAMAN SIGN aNL aNNBSP aNO BICYCLES bBREAK HERE bENTRY
  cSIGN bMOBILE PHONES bONE UNDER EIGHTEEN SYMBOL bPEDESTRIANS bPIRACY bSMOKING SYMBOL aNO-BREAK
  SPACE aNOMINAL DIGIT SHAPES aNOMISMA SIGN aNON-BREAKING HYPHEN aNON-POTABLE WATER SYMBOL
  aNONFORKING aNOR aNORDIC MARK SIGN aNORMAL SUBGROUP OF dOR EQUAL TO aNORTH EAST AND SOUTH WEST
  ARROW cARROW dAND SOUTH EAST ARROW dCROSSING NORTH WEST ARROW eSOUTH EAST ARROW dWITH HOOK cBLACK
  ARROW cDOUBLE ARROW cPOINTING BUD dLEAF dVINE LEAF cSANS-SERIF ARROW cTRIANGLE-HEADED ARROW eTO
  BAR cWHITE ARROW bINDIC FRACTION ONE EIGHTH eHALF eQUARTER eSIXTEENTH dTHREE QUARTERS eSIXTEENTHS
  cPLACEHOLDER MARK cQUANTITY MARK cQUARTER MARK cRUPEE MARK bWEST AND SOUTH EAST ARROW cARROW dAND
  NORTH EAST ARROW dCROSSING NORTH EAST ARROW dTO CORNER eLONG BAR dWITH HOOK cBLACK ARROW cDOUBLE
  ARROW cPOINTING BUD dLEAF dVINE LEAF cSANS-SERIF ARROW cTRIANGLE-HEADED ARROW eTO BAR cWHITE
  ARROW aNORTHEAST-POINTING AIRPLANE aNOSE aNOT A SUBSET OF cSUPERSET OF bALMOST EQUAL TO bAN
  ELEMENT OF bASYMPTOTICALLY EQUAL TO bCHECK MARK bEQUAL TO bEQUIVALENT TO bGREATER-THAN bIDENTICAL
  TO bLESS-THAN bNORMAL SUBGROUP OF eOR EQUAL TO bPARALLEL TO bSIGN bSQUARE IMAGE OF OR EQUAL TO
  cORIGINAL OF OR EQUAL TO bTILDE bTRUE aNOTCHED LEFT SEMICIRCLE WITH THREE DOTS bLOWER
  RIGHT-SHADOWED WHITE RIGHTWARDS ARROW bRIGHT SEMICIRCLE WITH THREE DOTS bUPPER RIGHT-SHADOWED
  WHITE RIGHTWARDS ARROW aNOTE bPAD bPAGE aNOTEBOOK bWITH DECORATIVE COVER aNUL aNULL aNUMBER
  EIGHTEEN FULL STOP bELEVEN FULL STOP bFIFTEEN FULL STOP bFOURTEEN FULL STOP bNINETEEN FULL STOP
  bSEVENTEEN FULL STOP bSIGN bSIXTEEN FULL STOP bTEN FULL STOP bTHIRTEEN FULL STOP bTWELVE FULL
  STOP bTWENTY FULL STOP aNUMERO SIGN aNUSHU CHARACTER-1B170 bCHARACTER-1B171 bCHARACTER-1B172
  bCHARACTER-1B173 bCHARACTER-1B174 bCHARACTER-1B175 bCHARACTER-1B176 bCHARACTER-1B177
  bCHARACTER-1B178 bCHARACTER-1B179 bCHARACTER-1B17A bCHARACTER-1B17B bCHARACTER-1B17C
  bCHARACTER-1B17D bCHARACTER-1B17E bCHARACTER-1B17F bCHARACTER-1B180 bCHARACTER-1B181
  bCHARACTER-1B182 bCHARACTER-1B183 bCHARACTER-1B184 bCHARACTER-1B185 bCHARACTER-1B186
  bCHARACTER-1B187 bCHARACTER-1B188 bCHARACTER-1B189 bCHARACTER-1B18A bCHARACTER-1B18B
  bCHARACTER-1B18C bCHARACTER-1B18D bCHARACTER-1B18E bCHARACTER-1B18F bCHARACTER-1B190
  bCHARACTER-1B191 bCHARACTER-1B192 bCHARACTER-1B193 bCHARACTER-1B194 bCHARACTER-1B195
  bCHARACTER-1B196 bCHARACTER-1B197 bCHARACTER-1B198 bCHARACTER-1B199 bCHARACTER-1B19A
  bCHARACTER-1B19B bCHARACTER-1B19C bCHARACTER-1B19D bCHARACTER-1B19E bCHARACTER-1B19F
  bCHARACTER-1B1A0 bCHARACTER-1B1A1 bCHARACTER-1B1A2 bCHARACTER-1B1A3 bCHARACTER-1B1A4
  bCHARACTER-1B1A5 bCHARACTER-1B1A6 bCHARACTER-1B1A7 bCHARACTER-1B1A8 bCHARACTER-1B1A9
  bCHARACTER-1B1AA bCHARACTER-1B1AB bCHARACTER-1B1AC bCHARACTER-1B1AD bCHARACTER-1B1AE
  bCHARACTER-1B1AF bCHARACTER-1B1B0 bCHARACTER-1B1B1 bCHARACTER-1B1B2 bCHARACTER-1B1B3
  bCHARACTER-1B1B4 bCHARACTER-1B1B5 bCHARACTER-1B1B6 bCHARACTER-1B1B7 bCHARACTER-1B1B8
  bCHARACTER-1B1B9 bCHARACTER-1B1BA bCHARACTER-1B1BB bCHARACTER-1B1BC bCHARACTER-1B1BD
  bCHARACTER-1B1BE bCHARACTER-1B1BF bCHARACTER-1B1C0 bCHARACTER-1B1C1 bCHARACTER-1B1C2
  bCHARACTER-1B1C3 bCHARACTER-1B1C4 bCHARACTER-1B1C5 bCHARACTER-1B1C6 bCHARACTER-1B1C7
  bCHARACTER-1B1C8 bCHARACTER-1B1C9 bCHARACTER-1B1CA bCHARACTER-1B1CB bCHARACTER-1B1CC
  bCHARACTER-1B1CD bCHARACTER-1B1CE bCHARACTER-1B1CF bCHARACTER-1B1D0 bCHARACTER-1B1D1
  bCHARACTER-1B1D2 bCHARACTER-1B1D3 bCHARACTER-1B1D4 bCHARACTER-1B1D5 bCHARACTER-1B1D6
  bCHARACTER-1B1D7 bCHARACTER-1B1D8 bCHARACTER-1B1D9 bCHARACTER-1B1DA bCHARACTER-1B1DB
  bCHARACTER-1B1DC bCHARACTER-1B1DD bCHARACTER-1B1DE bCHARACTER-1B1DF bCHARACTER-1B1E0
  bCHARACTER-1B1E1 bCHARACTER-1B1E2 bCHARACTER-1B1E3 bCHARACTER-1B1E4 bCHARACTER-1B1E5
  bCHARACTER-1B1E6 bCHARACTER-1B1E7 bCHARACTER-1B1E8 bCHARACTER-1B1E9 bCHARACTER-1B1EA
  bCHARACTER-1B1EB bCHARACTER-1B1EC bCHARACTER-1B1ED bCHARACTER-1B1EE bCHARACTER-1B1EF
  bCHARACTER-1B1F0 bCHARACTER-1B1F1 bCHARACTER-1B1F2 bCHARACTER-1B1F3 bCHARACTER-1B1F4
  bCHARACTER-1B1F5 bCHARACTER-1B1F6 bCHARACTER-1B1F7 bCHARACTER-1B1F8 bCHARACTER-1B1F9
  bCHARACTER-1B1FA bCHARACTER-1B1FB bCHARACTER-1B1FC bCHARACTER-1B1FD bCHARACTER-1B1FE
  bCHARACTER-1B1FF bCHARACTER-1B200 bCHARACTER-1B201 bCHARACTER-1B202 bCHARACTER-1B203
  bCHARACTER-1B204 bCHARACTER-1B205 bCHARACTER-1B206 bCHARACTER-1B207 bCHARACTER-1B208
  bCHARACTER-1B209 bCHARACTER-1B20A bCHARACTER-1B20B bCHARACTER-1B20C bCHARACTER-1B20D
  bCHARACTER-1B20E bCHARACTER-1B20F bCHARACTER-1B210 bCHARACTER-1B211 bCHARACTER-1B212
  bCHARACTER-1B213 bCHARACTER-1B214 bCHARACTER-1B215 bCHARACTER-1B216 bCHARACTER-1B217
  bCHARACTER-1B218 bCHARACTER-1B219 bCHARACTER-1B21A bCHARACTER-1B21B bCHARACTER-1B21C
  bCHARACTER-1B21D bCHARACTER-1B21E bCHARACTER-1B21F bCHARACTER-1B220 bCHARACTER-1B221
  bCHARACTER-1B222 bCHARACTER-1B223 bCHARACTER-1B224 bCHARACTER-1B225 bCHARACTER-1B226
  bCHARACTER-1B227 bCHARACTER-1B228 bCHARACTER-1B229 bCHARACTER-1B22A bCHARACTER-1B22B
  bCHARACTER-1B22C bCHARACTER-1B22D bCHARACTER-1B22E bCHARACTER-1B22F bCHARACTER-1B230
  bCHARACTER-1B231 bCHARACTER-1B232 bCHARACTER-1B233 bCHARACTER-1B234 bCHARACTER-1B235
  bCHARACTER-1B236 bCHARACTER-1B237 bCHARACTER-1B238 bCHARACTER-1B239 bCHARACTER-1B23A
  bCHARACTER-1B23B bCHARACTER-1B23C bCHARACTER-1B23D bCHARACTER-1B23E bCHARACTER-1B23F
  bCHARACTER-1B240 bCHARACTER-1B241 bCHARACTER-1B242 bCHARACTER-1B243 bCHARACTER-1B244
  bCHARACTER-1B245 bCHARACTER-1B246 bCHARACTER-1B247 bCHARACTER-1B248 bCHARACTER-1B249
  bCHARACTER-1B24A bCHARACTER-1B24B bCHARACTER-1B24C bCHARACTER-1B24D bCHARACTER-1B24E
  bCHARACTER-1B24F bCHARACTER-1B250 bCHARACTER-1B251 bCHARACTER-1B252 bCHARACTER-1B253
  bCHARACTER-1B254 bCHARACTER-1B255 bCHARACTER-1B256 bCHARACTER-1B257 bCHARACTER-1B258
  bCHARACTER-1B259 bCHARACTER-1B25A bCHARACTER-1B25B bCHARACTER-1B25C bCHARACTER-1B25D
  bCHARACTER-1B25E bCHARACTER-1B25F bCHARACTER-1B260 bCHARACTER-1B261 bCHARACTER-1B262
  bCHARACTER-1B263 bCHARACTER-1B264 bCHARACTER-1B265 bCHARACTER-1B266 bCHARACTER-1B267
  bCHARACTER-1B268 bCHARACTER-1B269 bCHARACTER-1B26A bCHARACTER-1B26B bCHARACTER-1B26C
  bCHARACTER-1B26D bCHARACTER-1B26E bCHARACTER-1B26F bCHARACTER-1B270 bCHARACTER-1B271
  bCHARACTER-1B272 bCHARACTER-1B273 bCHARACTER-1B274 bCHARACTER-1B275 bCHARACTER-1B276
  bCHARACTER-1B277 bCHARACTER-1B278 bCHARACTER-1B279 bCHARACTER-1B27A bCHARACTER-1B27B
  bCHARACTER-1B27C bCHARACTER-1B27D bCHARACTER-1B27E bCHARACTER-1B27F bCHARACTER-1B280
  bCHARACTER-1B281 bCHARACTER-1B282 bCHARACTER-1B283 bCHARACTER-1B284 bCHARACTER-1B285
  bCHARACTER-1B286 bCHARACTER-1B287 bCHARACTER-1B288 bCHARACTER-1B289 bCHARACTER-1B28A
  bCHARACTER-1B28B bCHARACTER-1B28C bCHARACTER-1B28D bCHARACTER-1B28E bCHARACTER-1B28F
  bCHARACTER-1B290 bCHARACTER-1B291 bCHARACTER-1B292 bCHARACTER-1B293 bCHARACTER-1B294
  bCHARACTER-1B295 bCHARACTER-1B296 bCHARACTER-1B297 bCHARACTER-1B298 bCHARACTER-1B299
  bCHARACTER-1B29A bCHARACTER-1B29B bCHARACTER-1B29C bCHARACTER-1B29D bCHARACTER-1B29E
  bCHARACTER-1B29F bCHARACTER-1B2A0 bCHARACTER-1B2A1 bCHARACTER-1B2A2 bCHARACTER-1B2A3
  bCHARACTER-1B2A4 bCHARACTER-1B2A5 bCHARACTER-1B2A6 bCHARACTER-1B2A7 bCHARACTER-1B2A8
  bCHARACTER-1B2A9 bCHARACTER-1B2AA bCHARACTER-1B2AB bCHARACTER-1B2AC bCHARACTER-1B2AD
  bCHARACTER-1B2AE bCHARACTER-1B2AF bCHARACTER-1B2B0 bCHARACTER-1B2B1 bCHARACTER-1B2B2
  bCHARACTER-1B2B3 bCHARACTER-1B2B4 bCHARACTER-1B2B5 bCHARACTER-1B2B6 bCHARACTER-1B2B7
  bCHARACTER-1B2B8 bCHARACTER-1B2B9 bCHARACTER-1B2BA bCHARACTER-1B2BB bCHARACTER-1B2BC
  bCHARACTER-1B2BD bCHARACTER-1B2BE bCHARACTER-1B2BF bCHARACTER-1B2C0 bCHARACTER-1B2C1
  bCHARACTER-1B2C2 bCHARACTER-1B2C3 bCHARACTER-1B2C4 bCHARACTER-1B2C5 bCHARACTER-1B2C6
  bCHARACTER-1B2C7 bCHARACTER-1B2C8 bCHARACTER-1B2C9 bCHARACTER-1B2CA bCHARACTER-1B2CB
  bCHARACTER-1B2CC bCHARACTER-1B2CD bCHARACTER-1B2CE bCHARACTER-1B2CF bCHARACTER-1B2D0
  bCHARACTER-1B2D1 bCHARACTER-1B2D2 bCHARACTER-1B2D3 bCHARACTER-1B2D4 bCHARACTER-1B2D5
  bCHARACTER-1B2D6 bCHARACTER-1B2D7 bCHARACTER-1B2D8 bCHARACTER-1B2D9 bCHARACTER-1B2DA
  bCHARACTER-1B2DB bCHARACTER-1B2DC bCHARACTER-1B2DD bCHARACTER-1B2DE bCHARACTER-1B2DF
  bCHARACTER-1B2E0 bCHARACTER-1B2E1 bCHARACTER-1B2E2 bCHARACTER-1B2E3 bCHARACTER-1B2E4
  bCHARACTER-1B2E5 bCHARACTER-1B2E6 bCHARACTER-1B2E7 bCHARACTER-1B2E8 bCHARACTER-1B2E9
  bCHARACTER-1B2EA bCHARACTER-1B2EB bCHARACTER-1B2EC bCHARACTER-1B2ED bCHARACTER-1B2EE
  bCHARACTER-1B2EF bCHARACTER-1B2F0 bCHARACTER-1B2F1 bCHARACTER-1B2F2 bCHARACTER-1B2F3
  bCHARACTER-1B2F4 bCHARACTER-1B2F5 bCHARACTER-1B2F6 bCHARACTER-1B2F7 bCHARACTER-1B2F8
  bCHARACTER-1B2F9 bCHARACTER-1B2FA bCHARACTER-1B2FB bITERATION MARK aNUT AND BOLT aNYIAKENG
  PUACHUE HMONG CIRCLED CA dDIGIT EIGHT eFIVE eFOUR eNINE eONE eSEVEN eSIX eTHREE eTWO eZERO
  dLETTER A eAA eCA eDA eDLA eE eEE eFA eGA eHA eHAH eI eKA eLA eMA eMLA eNA eNCA eNKA eNPA eNPLA
  eNQA eNRA eNTA eNTSA eNTXA eNYA eO eOO ePA ePLA eQA eRA eRRA eSA eTA eTSA eTXA eU eVA eW eXA eXYA
  eYA eZA dLOGOGRAM NYAJ dSIGN FOR ANIMAL fINVERTEBRATE fLOCATION fPERSON fTHING eXW XW dSYLLABLE
  LENGTHENER dTONE-B dTONE-D dTONE-G dTONE-J dTONE-M dTONE-S dTONE-V aOBJECT REPLACEMENT CHARACTER
  aOBLIQUE ANGLE OPENING DOWN dUP bHYPHEN aOBSERVER EYE SYMBOL aOCR AMOUNT OF CHECK bBELT BUCKLE
  bBOW TIE bBRANCH BANK IDENTIFICATION bCHAIR bCUSTOMER ACCOUNT NUMBER bDASH bDOUBLE BACKSLASH
  bFORK bHOOK bINVERTED FORK aOCTAGONAL SIGN aOCTOPUS aODEN aOFFICE BUILDING aOGHAM FEATHER MARK
  bLETTER AILM cBEITH cCEIRT cCOLL cDAIR cEABHADH cEADHADH cEAMHANCHOLL cFEARN cGORT cIFIN cIODHADH
  cLUIS cMUIN cNGEADAL cNION cONN cOR cPEITH cRUIS cSAIL cSTRAIF cTINNE cUATH cUILLEANN cUR
  bREVERSED FEATHER MARK bSPACE MARK aOGONEK aOHM SIGN aOIL DRUM aOK HAND SIGN aOL CHIKI AHAD
  cDIGIT EIGHT dFIVE dFOUR dNINE dONE dSEVEN dSIX dTHREE dTWO dZERO cGAAHLAA TTUDDAAG cLETTER AAJ
  dAAK dAAM dAAW dAG dAL dANG dAT dEDD dEN dEP dERR dIH dINY dIR dIS dLA dLAA dLE dLI dLO dLU dOB
  dOH dOTT dOV dUC dUD dUNN dUY cMU TTUDDAG cMU-GAAHLAA TTUDDAAG cPHAARKAA cPUNCTUATION DOUBLE
  MUCAAD dMUCAAD cRELAA aOLD CHINESE HOOK MARK cITERATION MARK bHUNGARIAN CAPITAL LETTER A eAA eAK
  eAMB eAND eCLOSE E eE eEB eEC eECH eECS eED eEE eEF eEG eEGY eEH eEJ eEK eEL eELY eEM eEMP eEN
  eENC eENT eENT-SHAPED SIGN eENY eEP eER eES eESZ eET eETY eEV eEZ eEZS eI eII eNIKOLSBURG OE fUE
  eO eOEE eOO eRUDIMENTA OE fUE eSHORT ER eU eUNK eUS eUU cNUMBER FIFTY dFIVE dONE eHUNDRED
  eTHOUSAND dTEN cSMALL LETTER A eAA eAK eAMB eAND eCLOSE E eE eEB eEC eECH eECS eED eEE eEF eEG
  eEGY eEH eEJ eEK eEL eELY eEM eEMP eEN eENC eENT eENT-SHAPED SIGN eENY eEP eER eES eESZ eET eETY
  eEV eEZ eEZS eI eII eNIKOLSBURG OE fUE eO eOEE eOO eRUDIMENTA OE fUE eSHORT ER eU eUNK eUS eUU
  bITALIC LETTER A dBE dCHE dDE dE dEF dEKS dEL dEM dEN dER dERS dES dESH dESS dHE dI dII dKA dKE
  dKHE dKU dNORTHERN TSE dO dPE dPHE dSHE dSOUTHERN TSE dTE dTHE dU dUU dVE dYE dZE cNUMERAL FIFTY
  dFIVE dONE dTEN bKEY bNORTH ARABIAN LETTER AIN eALEF eBEH eDAD eDAL eES-1 eES-2 eES-3 eFEH eGEEM
  eGHAIN eHAH eHEH eKAF eKHAH eLAM eMEEM eNOON eQAF eREH eSAD eTAH eTEH eTHAL eTHEH eWAW eYEH eZAH
  eZAIN dNUMBER ONE eTEN eTWENTY bPERMIC LETTER AN dBUR dCHERY dDOI dDZHOI dDZITA dE dEF dGAI dHA
  dI dIA dIE dKOKE dLEI dMENOE dNENOE dO dOO dPEEI dREI dSHCHOOI dSHOOI dSII dTAI dTSIU dU dVER
  dVOOI dYA dYAT dYER dYERI dYERU dYRY dYU dZATA dZHOI bPERSIAN NUMBER HUNDRED dONE dTEN dTWENTY
  dTWO cSIGN A dAURAMAZDAA dAURAMAZDAA-2 dAURAMAZDAAHA dBA dBAGA dBUUMISH dCA dDA dDAHYAAUSH
  dDAHYAAUSH-2 dDI dDU dFA dGA dGU dHA dI dJA dJI dKA dKU dLA dMA dMI dMU dNA dNU dPA dRA dRU dSA
  dSHA dSSA dTA dTHA dTU dU dVA dVI dXA dXSHAAYATHIYA dYA dZA cWORD DIVIDER bPERSONAL COMPUTER
  bSOGDIAN FRACTION ONE HALF cLETTER ALEPH dALTERNATE AYIN dAYIN dBETH dFINAL ALEPH eBETH eHE eNUN
  fWITH VERTICAL TAIL eSADHE fWITH VERTICAL TAIL eTAW fWITH VERTICAL TAIL dGIMEL dHE dHETH dKAPH
  dLAMEDH dMEM dNUN dPE dRESH-AYIN-DALETH dSADHE dSAMEKH dSHIN dTAW dWAW dYODH dZAYIN cLIGATURE
  AYIN-DALETH cNUMBER FIVE dFOUR dONE eHUNDRED dTEN dTHIRTY dTHREE dTWENTY dTWO bSOUTH ARABIAN
  LETTER ALEF eAYN eBETH eDALETH eDHADHE eDHALETH eFE eGHAYN eGIMEL eHE eHETH eKAPH eKHETH eLAMEDH
  eMEM eNUN eQOPH eRESH eSADHE eSAMEKH eSAT eSHIN eTAW eTETH eTHAW eTHETH eWAW eYODH eZAYN dNUMBER
  FIFTY eONE dNUMERIC INDICATOR bTURKIC LETTER ORKHON A eAB eAD eAEB eAED eAEG eAEK eAEL eAEN eAER
  eAES eAET eAEY eAG eAL eAN eAQ eAR eAS eASH eAT eAY eBASH eEC eELT eEM eENC eENG eENT eENY eEP
  eESH eEZ eI eIC eIQ eO eOE eOEK eOP eOQ eOT dYENISEI A eAB eAD eAE eAEB eAEG eAEK eAEN eAENG eAET
  eAEY eAG eAL eANG eAQ eAR eASH eAT eAY eE eEC eENC eENT eENY eESH eEZ eI eIQ eOE eOEK eOQ bUYGHUR
  COMBINING DOT ABOVE eBELOW dTWO DOTS ABOVE fBELOW cLETTER ALEPH dBETH dFINAL HETH dGIMEL-HETH
  dKAPH dLAMEDH dLESH dMEM dNUN dPE dRESH dSADHE dSAMEKH dSHIN dTAW dWAW dYODH dZAYIN cPUNCTUATION
  BAR dFOUR DOTS dTWO BARS eDOTS aOLDER ADULT bMAN bWOMAN aOLIVE aOM SYMBOL aON WITH EXCLAMATION
  MARK WITH LEFT RIGHT ARROW ABOVE aONCOMING AUTOMOBILE bBUS bFIRE ENGINE bPOLICE CAR bTAXI aONE
  BUTTON MOUSE bDOT LEADER cOVER TWO DOTS PUNCTUATION aONE-PIECE SWIMSUIT aONION aOPEN BOOK bBOX
  bCENTRE ASTERISK cBLACK STAR cCROSS cTEARDROP-SPOKED ASTERISK bFILE FOLDER bFOLDER bHANDS SIGN
  bLOCK bMAILBOX WITH LOWERED FLAG dRAISED FLAG bSUBSET bSUPERSET aOPEN-CIRCUIT-OUTPUT H-TYPE
  SYMBOL bL-TYPE SYMBOL aOPEN-OUTLINED RIGHTWARDS ARROW aOPERATING SYSTEM COMMAND aOPHIUCHUS
  aOPPOSITION aOPTICAL DISC cICON aOPTION KEY aOR WITH DOT INSIDE aORANGE BOOK bHEART aORANGUTAN
  aORIGINAL OF aORIYA AI LENGTH MARK bAU LENGTH MARK bDIGIT EIGHT cFIVE cFOUR cNINE cONE cSEVEN
  cSIX cTHREE cTWO cZERO bFRACTION ONE EIGHTH dHALF dQUARTER dSIXTEENTH cTHREE QUARTERS dSIXTEENTHS
  bISSHAR bLETTER A cAA cAI cAU cBA cBHA cCA cCHA cDA cDDA cDDHA cDHA cE cGA cGHA cHA cI cII cJA
  cJHA cKA cKHA cLA cLLA cMA cNA cNGA cNNA cNYA cO cPA cPHA cRA cRHA cRRA cSA cSHA cSSA cTA cTHA
  cTTA cTTHA cU cUU cVA cVOCALIC L dLL dR dRR cWA cYA cYYA bSIGN ANUSVARA cAVAGRAHA cCANDRABINDU
  cNUKTA cOVERLINE cVIRAMA cVISARGA bVOWEL SIGN AA dAI dAU dE dI dII dO dU dUU dVOCALIC L eLL eR
  eRR aORNATE LEFT PARENTHESIS bRIGHT PARENTHESIS aORTHODOX CROSS aOSAGE CAPITAL LETTER A dAH dAI
  dAIN dBRA dCHA dDHA dE dEHCHA dEHKA dEHPA dEHTA dEHTSA dEIN dGHA dHA dHYA dI dKA dKHA dKYA dLA
  dMA dNA dO dOIN dPA dSA dSHA dTA dTSA dTSHA dU dWA dZA dZHA bSMALL LETTER A dAH dAI dAIN dBRA
  dCHA dDHA dE dEHCHA dEHKA dEHPA dEHTA dEHTSA dEIN dGHA dHA dHYA dI dKA dKHA dKYA dLA dMA dNA dO
  dOIN dPA dSA dSHA dTA dTSA dTSHA dU dWA dZA dZHA aOSC aOSMANYA DIGIT EIGHT cFIVE cFOUR cNINE cONE
  cSEVEN cSIX cTHREE cTWO cZERO bLETTER A cAA cALEF cBA cCAYN cDEEL cDHA cE cEE cFA cGA cHA cI cJA
  cKAAF cKHA cLAAN cMIIN cNUUN cO cOO cQAAF cRA cSA cSHIIN cTA cU cWAW cXA cYA aOTTER aOTTOMAN
  SIYAQ ALTERNATE NUMBER EIGHT eFIVE eFOUR fHUNDRED eNINE eSEVEN eSIX fHUNDRED eTEN fTHOUSAND
  eTHREE eTWO fTHOUSAND cFRACTION ONE HALF eSIXTH cMARRATAN cNUMBER EIGHT eHUNDRED eTHOUSAND
  dEIGHTY eTHOUSAND dFIFTY eTHOUSAND dFIVE eHUNDRED eTHOUSAND dFORTY eTHOUSAND dFOUR eHUNDRED
  eTHOUSAND dNINE eHUNDRED eTHOUSAND dNINETY eTHOUSAND dONE eHUNDRED eTHOUSAND dSEVEN eHUNDRED
  eTHOUSAND dSEVENTY eTHOUSAND dSIX eHUNDRED eTHOUSAND dSIXTY eTHOUSAND dTEN eTHOUSAND dTHIRTY
  eTHOUSAND dTHREE eHUNDRED eTHOUSAND dTWENTY eTHOUSAND dTWO eHUNDRED eTHOUSAND aOUNCE SIGN aOUTBOX
  TRAY aOUTLINED BLACK STAR bGREEK CROSS bLATIN CROSS bWHITE STAR aOVERHEATED FACE aOVERLAP
  aOVERLAPPING BLACK SQUARES bWHITE AND BLACK SQUARES cSQUARES aOVERLINE aOWL aOX aOYSTER aPACKAGE
  aPAD aPADDING CHARACTER aPAGE bFACING UP bWITH CIRCLED TEXT cCURL aPAGER aPAGES aPAGODA aPAHAWH
  HMONG CLAN SIGN FAJ eHAM eHAWJ eKHAB eKOO eKWM eLAUJ eLIS eMUAS ePHAB eTHOJ eTSAB eTSHEEJ eTSWB
  eVAJ eVWJ eXYOOJ eYAJ eYEEG cCONSONANT AU dCAU dCHAU dHAU dHLAU dHNAU dLAU dMAU dNAU dNCHAU dNKAU
  dNLAU dNTHAU dNTSAU dPLHAU dQHAU dRAU dVAU dXAU dYAU cDIGIT EIGHT dFIVE dFOUR dNINE dONE dSEVEN
  dSIX dTHREE dTWO dZERO cMARK CIM HOM eKES eKHAV eSO eSUAM eTAUM eTUB cNUMBER HUNDRED MILLIONS
  dHUNDREDS dMILLIONS dTEN BILLIONS eTHOUSANDS dTENS dTRILLIONS cSIGN AV dCIM CHEEM eCUAM TSHOOJ
  eHAIS LUS NTOG NTOG eNRES TOS ePUB DAWB eTSOV ROG eTXWV fCHWV dHLI dHNUB dIB YAM dLOS dMEEJ SUAB
  eTSEEB dMUS dNQIG dNTUJ dTAU dTHIRD-STAGE HLI dTXHEEJ CEEV dVOS FEEM eLUB eNRUA eSEEV eTHIAB
  eTHOM eTSHAB CEEB dXAUS dXIAB dXYEEM FAIB eNTXIV eRHO eTOV dXYOO dZWJ THAJ cVOWEL KAAB dKAAV dKAB
  dKAIB dKAIV dKAUB dKAUV dKAV dKAWB dKAWV dKEB dKEEB dKEEV dKEV dKIAB dKIAV dKIB dKIV dKOB dKOOB
  dKOOV dKOV dKUAB dKUAV dKUB dKUV dKWB dKWV aPALLAS aPALM BRANCH bDOWN HAND bTREE bUP HAND aPALMS
  UP TOGETHER aPALMYRENE LEFT-POINTING FLEURON bLETTER ALEPH cAYIN cBETH cDALETH cFINAL NUN cGIMEL
  cHE cHETH cKAPH cLAMEDH cMEM cNUN cPE cQOPH cRESH cSADHE cSAMEKH cSHIN cTAW cTETH cWAW cYODH
  cZAYIN bNUMBER FIVE cFOUR cONE cTEN cTHREE cTWENTY cTWO bRIGHT-POINTING FLEURON aPANCAKES aPANDA
  FACE aPAPERCLIP aPARACHUTE aPARAGRAPH SEPARATOR aPARAGRAPHOS aPARAGRAPHUS MARK aPARALLEL TO bWITH
  HORIZONTAL STROKE cTILDE OPERATOR aPARENTHESIZED DIGIT EIGHT cFIVE cFOUR cNINE cONE cSEVEN cSIX
  cTHREE cTWO bHANGUL CHIEUCH dA cCIEUC dA dU cHIEUH dA cIEUNG dA cKHIEUKH dA cKIYEOK dA cMIEUM dA
  cNIEUN dA cPHIEUPH dA cPIEUP dA cRIEUL dA cSIOS dA cTHIEUTH dA cTIKEUT dA bIDEOGRAPH ALLIANCE
  cCALL cCONGRATULATION cEARTH cEIGHT cENTERPRISE cFESTIVAL cFINANCIAL cFIRE cFIVE cFOUR cHAVE
  cLABOR cMETAL cMOON cNAME cNINE cONE cREACH cREPRESENT cRESOURCE cREST cSELF cSEVEN cSIX cSOCIETY
  cSPECIAL cSTOCK cSTUDY cSUN cSUPERVISE cTEN cTHREE cTWO cWATER cWOOD bKOREAN CHARACTER O HU
  dOJEON bLATIN CAPITAL LETTER A eB eC eD eE eF eG eH eI eJ eK eL eM eN eO eP eQ eR eS eT eU eV eW
  eX eY eZ cSMALL LETTER A eB eC eD eE eF eG eH eI eJ eK eL eM eN eO eP eQ eR eS eT eU eV eW eX eY
  eZ bNUMBER EIGHTEEN cELEVEN cFIFTEEN cFOURTEEN cNINETEEN cSEVENTEEN cSIXTEEN cTEN cTHIRTEEN
  cTWELVE cTWENTY aPARROT aPART ALTERNATION MARK aPARTIAL DIFFERENTIAL bLINE BACKWARD cDOWN
  cFORWARD cUP aPARTIALLY-RECYCLED PAPER SYMBOL aPARTNERSHIP SIGN aPARTY POPPER aPASSED SYMBOL
  aPASSENGER SHIP aPASSIVE-PULL-DOWN-OUTPUT SYMBOL aPASSIVE-PULL-UP-OUTPUT SYMBOL aPASSPORT CONTROL
  aPAU CIN HAU GLOTTAL STOP fFINAL fVARIANT dLETTER A eBA eCA eCHA eDA eE eFA eFINAL K fL fM fN fNG
  fP fT fW fY eGA eHA eI eIA eKA eKHA eLA eMA eNA eNGA eO ePA ePHA eRA eSA eTA eTHA eU eUA eVA eZA
  dLOW-FALLING TONE fFINAL fLONG gFINAL dMID-LEVEL TONE fFINAL fLONG FINAL dRISING TONE fFINAL
  fLONG gFINAL dSANDHI GLOTTAL STOP gFINAL eTONE fFINAL fLONG gFINAL aPAW PRINTS aPDF aPDI aPEACE
  SYMBOL aPEACH aPEACOCK aPEANUTS aPEAR aPEDESTRIAN aPEN OVER STAMPED ENVELOPE aPENCIL aPENGUIN
  aPENSIVE FACE aPENTAGRAM aPEOPLE HUGGING aPER MILLE SIGN bSIGN bTEN THOUSAND SIGN aPERCENT SIGN
  aPERFORMING ARTS aPERMANENT PAPER SIGN aPERPENDICULAR bWITH S aPERSEVERING FACE aPERSON BOWING
  DEEPLY bCLIMBING bDOING CARTWHEEL bFROWNING bIN LOTUS POSITION cSTEAMY ROOM bRAISING BOTH HANDS
  IN CELEBRATION bWITH BALL cBLOND HAIR cCROWN cFOLDED HANDS cHEADSCARF cPOUTING FACE aPERSONAL
  COMPUTER aPERSPECTIVE aPESETA SIGN aPESO SIGN aPETRI DISH aPHAGS-PA DOUBLE HEAD MARK bLETTER A
  cALTERNATE YA cASPIRATED FA cBA cCA cCANDRABINDU cCHA cDA cDDA cDZA cE cEE cFA cGA cGGA cHA cI
  cJA cKA cKHA cLA cMA cNA cNGA cNNA cNYA cO cPA cPHA cQA cRA cSA cSHA cSMALL A cTA cTHA cTSA cTSHA
  cTTA cTTHA cU cVOICED HA cVOICELESS SHA cWA cXA cYA cZA cZHA bMARK DOUBLE SHAD cSHAD bSINGLE HEAD
  MARK bSUBJOINED LETTER RA dWA dYA bSUPERFIXED LETTER RA aPHAISTOS DISC SIGN ARROW dBEE dBEEHIVE
  dBOOMERANG dBOW dBULLS LEG dCAPTIVE dCARPENTRY PLANE dCAT dCHILD dCLUB dCOLUMN dCOMB dCOMBINING
  OBLIQUE STROKE dDOLIUM dDOVE dEAGLE dFLUTE dGAUNTLET dGRATER dHELMET dHIDE dHORN dLID dLILY
  dMANACLES dMATTOCK dOX BACK dPAPYRUS dPEDESTRIAN dPLANE TREE dPLUMED HEAD dRAM dROSETTE dSAW
  dSHIELD dSHIP dSLING dSMALL AXE dSTRAINER dTATTOOED HEAD dTIARA dTUNNY dVINE dWAVY BAND dWOMAN
  aPHILIPPINE DOUBLE PUNCTUATION bSINGLE PUNCTUATION aPHOENICIAN LETTER AIN cALF cBET cDELT cGAML
  cHE cHET cKAF cLAMD cMEM cNUN cPE cQOF cROSH cSADE cSEMK cSHIN cTAU cTET cWAU cYOD cZAI bNUMBER
  ONE dHUNDRED cTEN cTHREE cTWENTY cTWO bWORD SEPARATOR aPHOLUS aPICK aPICKUP TRUCK aPIE aPIG bFACE
  bNOSE aPILCROW SIGN aPILE OF POO aPILL aPINATA aPINCHED FINGERS aPINCHING HAND aPINE DECORATION
  aPINEAPPLE aPINWHEEL STAR aPISCES aPISTOL aPITCHFORK bWITH TEE TOP aPLACARD aPLACE OF INTEREST
  SIGN cWORSHIP aPLANCK CONSTANT cOVER TWO PI aPLAYGROUND SLIDE aPLAYING CARD ACE OF CLUBS
  eDIAMONDS eHEARTS eSPADES cBACK cBLACK JOKER cEIGHT OF CLUBS eDIAMONDS eHEARTS eSPADES cFIVE OF
  CLUBS eDIAMONDS eHEARTS eSPADES cFOOL cFOUR OF CLUBS eDIAMONDS eHEARTS eSPADES cJACK OF CLUBS
  eDIAMONDS eHEARTS eSPADES cKING OF CLUBS eDIAMONDS eHEARTS eSPADES cKNIGHT OF CLUBS eDIAMONDS
  eHEARTS eSPADES cNINE OF CLUBS eDIAMONDS eHEARTS eSPADES cQUEEN OF CLUBS eDIAMONDS eHEARTS
  eSPADES cRED JOKER cSEVEN OF CLUBS eDIAMONDS eHEARTS eSPADES cSIX OF CLUBS eDIAMONDS eHEARTS
  eSPADES cTEN OF CLUBS eDIAMONDS eHEARTS eSPADES cTHREE OF CLUBS eDIAMONDS eHEARTS eSPADES
  cTRUMP-1 cTRUMP-10 cTRUMP-11 cTRUMP-12 cTRUMP-13 cTRUMP-14 cTRUMP-15 cTRUMP-16 cTRUMP-17
  cTRUMP-18 cTRUMP-19 cTRUMP-2 cTRUMP-20 cTRUMP-21 cTRUMP-3 cTRUMP-4 cTRUMP-5 cTRUMP-6 cTRUMP-7
  cTRUMP-8 cTRUMP-9 cTWO OF CLUBS eDIAMONDS eHEARTS eSPADES cWHITE JOKER aPLD aPLU aPLUNGER aPLUS
  SIGN cABOVE EQUALS SIGN cIN LEFT HALF CIRCLE dRIGHT HALF CIRCLE dTRIANGLE cWITH BLACK TRIANGLE
  dCIRCUMFLEX ACCENT ABOVE dDOT BELOW dSMALL CIRCLE ABOVE dSUBSCRIPT TWO dTILDE ABOVE eBELOW
  aPLUS-MINUS SIGN aPLUTO bFORM FIVE cFOUR cTHREE cTWO aPM aPOCKET CALCULATOR aPOLICE CAR bCARS
  REVOLVING LIGHT bOFFICER aPOODLE aPOP DIRECTIONAL FORMATTING cISOLATE aPOPCORN aPORTABLE STEREO
  aPOSEIDON aPOSITION INDICATOR aPOSTAL HORN bMARK cFACE aPOSTBOX aPOT OF FOOD aPOTABLE WATER
  SYMBOL aPOTATO aPOTTED PLANT aPOUCH aPOULTRY LEG aPOUND SIGN aPOURING LIQUID aPOUTING CAT FACE
  bFACE aPOWER ON SYMBOL bON-OFF SYMBOL bSLEEP SYMBOL bSYMBOL aPRAYER BEADS aPRECEDES bABOVE ALMOST
  EQUAL TO cEQUALS SIGN cNOT ALMOST EQUAL TO dEQUAL TO cSINGLE-LINE EQUALS SIGN dNOT EQUAL TO bBUT
  NOT EQUIVALENT TO bOR EQUAL TO cEQUIVALENT TO bUNDER RELATION aPREGNANT MAN bPERSON bWOMAN
  aPRESCRIPTION TAKE aPRESENTATION FORM FOR VERTICAL COLON eCOMMA eEM DASH eEN DASH eEXCLAMATION
  MARK eHORIZONTAL ELLIPSIS eIDEOGRAPHIC COMMA fFULL STOP eLEFT ANGLE BRACKET fBLACK LENTICULAR
  BRACKET fCORNER BRACKET fCURLY BRACKET fDOUBLE ANGLE BRACKET fPARENTHESIS fSQUARE BRACKET
  fTORTOISE SHELL BRACKET fWHITE CORNER BRACKET gLENTICULAR BRACKET eLOW LINE eQUESTION MARK eRIGHT
  ANGLE BRACKET fBLACK LENTICULAR BRACKET fCORNER BRACKET fCURLY BRACKET fDOUBLE ANGLE BRACKET
  fPARENTHESIS fSQUARE BRACKET fTORTOISE SHELL BRACKET fWHITE CORNER BRACKET gLENTICULAR BRACKET
  hBRAKCET eSEMICOLON eTWO DOT LEADER eWAVY LOW LINE aPRETZEL aPREVIOUS PAGE aPRIME aPRINCE
  aPRINCESS aPRINT SCREEN SYMBOL aPRINTER bICON aPRIVACY MESSAGE aPRIVATE USE ONE cTWO bUSE-1
  bUSE-2 aPROBING CANE aPROHIBITED SIGN aPROJECTIVE aPROPERTY LINE aPROPORTION aPROPORTIONAL TO
  aPROSERPINA aPSALTER PAHLAVI FOUR DOTS WITH CROSS fDOT cLETTER ALEPH dBETH dDALETH dGIMEL dHE
  dHETH dKAPH dLAMEDH dMEM-QOPH dNUN dPE dSADHE dSAMEKH dSHIN dTAW dWAW-AYIN-RESH dYODH dZAYIN
  cNUMBER FOUR dONE eHUNDRED dTEN dTHREE dTWENTY dTWO cSECTION MARK cTURNED SECTION MARK aPU1 aPU2
  aPUBLIC ADDRESS LOUDSPEAKER aPUNCTUATION SPACE aPUNCTUS ELEVATUS MARK aPURPLE HEART aPURSE
  aPUSHPIN aPUT LITTER IN ITS PLACE SYMBOL aQUADRANT LOWER LEFT cRIGHT bUPPER LEFT dAND LOWER LEFT
  AND LOWER RIGHT fRIGHT eUPPER RIGHT AND LOWER LEFT iRIGHT cRIGHT dAND LOWER LEFT gAND LOWER RIGHT
  aQUADRUPLE INTEGRAL OPERATOR bPRIME aQUARTER NOTE aQUATERNION INTEGRAL OPERATOR aQUESTION
  EXCLAMATION MARK bMARK aQUESTIONED EQUAL TO aQUINCUNX aQUOTATION MARK aRABBIT bFACE aRACCOON
  aRACING CAR bMOTORCYCLE aRADICAL SYMBOL BOTTOM aRADIO bBUTTON aRADIOACTIVE SIGN aRAILWAY CAR
  bTRACK aRAIN aRAINBOW aRAISED BACK OF HAND bCOMMA bDOT bDOTTED INTERPOLATION MARKER bFIST bHAND
  cWITH FINGERS SPLAYED dPART BETWEEN MIDDLE AND RING FINGERS bINTERPOLATION MARKER bMC SIGN bMD
  SIGN bMR SIGN bSQUARE aRAM aRAT aRATIO aRAZOR aRECEIPT aRECORD SEPARATOR aRECREATIONAL VEHICLE
  aRECYCLED PAPER SYMBOL aRECYCLING SYMBOL FOR GENERIC MATERIALS dTYPE-1 PLASTICS dTYPE-2 PLASTICS
  dTYPE-3 PLASTICS dTYPE-4 PLASTICS dTYPE-5 PLASTICS dTYPE-6 PLASTICS dTYPE-7 PLASTICS aRED APPLE
  bGIFT ENVELOPE aREFERENCE MARK aREGIONAL INDICATOR SYMBOL LETTER A eB eC eD eE eF eG eH eI eJ eK
  eL eM eN eO eP eQ eR eS eT eU eV eW eX eY eZ aREGISTERED SIGN aREJANG CONSONANT SIGN H dN dNG dR
  bLETTER A cBA cCA cDA cGA cHA cJA cKA cLA cMA cMBA cNA cNDA cNGA cNGGA cNYA cNYJA cPA cRA cSA cTA
  cWA cYA bSECTION MARK bVIRAMA bVOWEL SIGN AI dAU dE dEA dEU dI dO dU aRELIEVED FACE aREMINDER
  RIBBON aREPLACEMENT CHARACTER aRESPONSE aRESTRICTED LEFT ENTRY-1 cENTRY-2 aRESTROOM aRETURN LEFT
  bRIGHT bSYMBOL aREVERSE CHECKER BOARD bINDEX bLIGHT FOUR POINTED PINWHEEL STAR bLINE FEED
  bSOLIDUS cOPERATOR cPRECEDING SUBSET cWITH HORIZONTAL STROKE bTILDE OPERATOR ABOVE LEFTWARDS
  ARROW eRIGHTWARDS ARROW aREVERSED ANGLE cWITH UNDERBAR bCOMMA bDOUBLE PRIME dQUOTATION MARK
  cSTROKE NOT SIGN bEMPTY SET bFORKED PARAGRAPHOS bHAND WITH MIDDLE FINGER EXTENDED bNOT SIGN
  bPILCROW SIGN bPRIME bQUESTION MARK bRAISED HAND WITH FINGERS SPLAYED bRIGHT ANGLE bROTATED
  FLORAL HEART BULLET bSANS-SERIF CAPITAL L bSEMICOLON bTHUMBS DOWN SIGN cUP SIGN bTILDE cEQUALS
  bTRIPLE PRIME bVICTORY HAND aREVOLVING HEARTS aRHINOCEROS aRI aRIAL SIGN aRIBBON bARROW DOWN LEFT
  dRIGHT cLEFT DOWN dUP cRIGHT DOWN dUP cUP LEFT dRIGHT aRICE BALL bCRACKER aRIFLE aRIGHT AND LOWER
  ONE EIGHTH BLOCK cUPPER ONE EIGHTH BLOCK bANGER BUBBLE bANGLE cBRACKET dWITH DOT cDOTTED
  SUBSTITUTION MARKER cSUBSTITUTION MARKER cVARIANT WITH SQUARE cWITH ARC dDOWNWARDS ZIGZAG ARROW
  bARC GREATER-THAN BRACKET bARROW WITH CIRCLED PLUS dSMALL CIRCLE bBLACK LENTICULAR BRACKET
  cTORTOISE SHELL BRACKET bCEILING bCORNER BRACKET bCURLY BRACKET dLOWER HOOK dMIDDLE PIECE dUPPER
  HOOK bDOTTED SUBSTITUTION BRACKET bDOUBLE ANGLE BRACKET cARROW WITH ROUNDED HEAD cPARENTHESIS
  cQUOTATION MARK cWIGGLY FENCE bFISH TAIL bFIVE EIGHTHS BLOCK bFLOOR bHALF BLACK CIRCLE dSTAR
  cBLOCK cFOLDER cMEDIUM SHADE cRUNNING MAN bHAND TELEPHONE RECEIVER bLOW PARAPHRASE BRACKET
  bNORMAL FACTOR SEMIDIRECT PRODUCT bONE EIGHTH BLOCK cQUARTER BLOCK bOPEN SQUARED DOT bOUTER JOIN
  bPARENTHESIS cEXTENSION cLOWER HOOK cUPPER HOOK bRAISED OMISSION BRACKET bS-SHAPED BAG DELIMITER
  bSEMIDIRECT PRODUCT bSEVEN EIGHTHS BLOCK bSIDEWAYS U BRACKET bSINGLE QUOTATION MARK bSPEAKER
  cWITH ONE SOUND WAVE dTHREE SOUND WAVES bSPEECH BUBBLE bSQUARE BRACKET dEXTENSION dLOWER CORNER
  dUPPER CORNER dWITH DOUBLE STROKE eQUILL eSTROKE eTICK IN BOTTOM CORNER gTOP CORNER eUNDERBAR
  bSUBSTITUTION BRACKET bTACK bTHIRD WHITE RIGHT POINTING INDEX bTHOUGHT BUBBLE bTHREE EIGHTHS
  BLOCK cQUARTERS BLOCK bTORTOISE SHELL BRACKET bTRANSPOSITION BRACKET bTRIANGLE cABOVE LEFT
  TRIANGLE bTRIANGULAR ONE QUARTER BLOCK bVERTICAL BAR WITH QUILL cBOX LINE bWHITE CORNER BRACKET
  cCURLY BRACKET cLENTICULAR BRACKET cPARENTHESIS cSQUARE BRACKET cTORTOISE SHELL BRACKET bWIGGLY
  FENCE aRIGHT-FACING ARMENIAN ETERNITY SIGN bFIST bSVASTI SIGN dWITH DOTS aRIGHT-HANDED INTERLACED
  PENTAGRAM aRIGHT-POINTING ANGLE BRACKET bCURVED ANGLE BRACKET bDOUBLE ANGLE QUOTATION MARK
  bMAGNIFYING GLASS aRIGHT-SHADED WHITE RIGHTWARDS ARROW aRIGHT-SIDE ARC CLOCKWISE ARROW
  aRIGHT-TO-LEFT EMBEDDING bISOLATE bMARK bOVERRIDE aRIGHTHAND INTERIOR PRODUCT aRIGHTWARDS ARROW
  cABOVE ALMOST EQUAL TO dREVERSE ALMOST EQUAL TO eTILDE OPERATOR dSHORT LEFTWARDS ARROW dTILDE
  OPERATOR cAND UPPER AND LOWER ONE EIGHTH BLOCK cFROM BAR eTO BLACK DIAMOND cOVER LEFTWARDS ARROW
  cTHROUGH GREATER-THAN dSUPERSET dX cTO BAR dBLACK DIAMOND cWITH CORNER DOWNWARDS dDOTTED STEM
  dDOUBLE VERTICAL STROKE dEQUILATERAL ARROWHEAD dHOOK dLARGE TRIANGLE ARROWHEAD dLOOP dMEDIUM
  TRIANGLE ARROWHEAD dNOTCHED TAIL dPLUS BELOW dSMALL EQUILATERAL ARROWHEAD eTRIANGLE ARROWHEAD
  dSTROKE dTAIL eWITH DOUBLE VERTICAL STROKE fVERTICAL STROKE dTIP DOWNWARDS eUPWARDS dVERTICAL
  STROKE bARROW-TAIL bBACK-TILTED SHADOWED WHITE ARROW bBLACK ARROW cCIRCLED WHITE ARROW bBOTTOM
  SHADED WHITE ARROW bCOMPRESSED ARROW bDASHED ARROW bDOUBLE ARROW dFROM BAR dWITH STROKE eVERTICAL
  STROKE cARROW-TAIL cDASH ARROW bFINGER-POST ARROW bFRONT-TILTED SHADOWED WHITE ARROW bHAND
  bHARPOON OVER LEFTWARDS HARPOON cWITH BARB DOWN ABOVE LEFTWARDS HARPOON WITH BARB DOWN fBELOW
  LONG DASH fFROM BAR fTO BAR eDOWNWARDS eUP ABOVE LEFTWARDS HARPOON WITH BARB UP gLONG DASH
  gRIGHTWARDS HARPOON WITH BARB DOWN fFROM BAR fTO BAR eUPWARDS bHEAVY ARROW cCOMPRESSED ARROW
  bLEFT-SHADED WHITE ARROW bOPEN-HEADED ARROW bPAIRED ARROWS bQUADRUPLE ARROW bRIGHT-SHADED WHITE
  ARROW bROCKET bSANS-SERIF ARROW bSQUARED ARROW bSQUIGGLE ARROW bTOP SHADED WHITE ARROW bTRIANGLE
  ARROWHEAD bTRIANGLE-HEADED ARROW dOVER LEFTWARDS TRIANGLE-HEADED ARROW dTO BAR dWITH BOLD SHAFT
  eDOUBLE HORIZONTAL STROKE fVERTICAL STROKE eHEAVY SHAFT eLONG TIP DOWNWARDS gUPWARDS eMEDIUM
  SHAFT eNARROW SHAFT eVERY HEAVY SHAFT cDASHED ARROW cPAIRED ARROWS bTRIPLE ARROW cDASH ARROW bTWO
  HEADED ARROW bTWO-HEADED ARROW FROM BAR dWITH DOUBLE VERTICAL STROKE eTAIL fWITH DOUBLE VERTICAL
  STROKE gVERTICAL STROKE eTRIANGLE ARROWHEADS eVERTICAL STROKE cTRIPLE DASH ARROW bWAVE ARROW
  bWHITE ARROW dFROM WALL dWITHIN TRIANGLE ARROWHEAD aRING bABOVE bBUOY bEQUAL TO bIN EQUAL TO
  bOPERATOR bPOINT aRINGED PLANET aRINGING BELL aRISING DIAGONAL CROSSING FALLING DIAGONAL dSOUTH
  EAST ARROW aRLE aRLI aRLM aRLO aROASTED SWEET POTATO aROBOT FACE aROCK aROCKET aROLL OF PAPER
  aROLLED-UP NEWSPAPER aROLLER COASTER bSKATE aROLLING ON THE FLOOR LAUGHING aROMAN AS SIGN
  bCENTURIAL SIGN bDENARIUS SIGN bDIMIDIA SEXTULA SIGN bDUPONDIUS SIGN bNUMERAL EIGHT cELEVEN
  cFIFTY dEARLY FORM dTHOUSAND cFIVE dHUNDRED dTHOUSAND cFOUR cNINE cONE dHUNDRED eTHOUSAND
  dTHOUSAND eC D cREVERSED ONE HUNDRED cSEVEN cSIX dLATE FORM cTEN dTHOUSAND cTHREE cTWELVE cTWO
  bQUINARIUS SIGN bSEMUNCIA SIGN bSESTERTIUS SIGN bSEXTANS SIGN bSEXTULA SIGN bSILIQUA SIGN bUNCIA
  SIGN aROOSTER aROSE aROSETTE aROTATED CAPITAL Q bFLORAL HEART BULLET bHEAVY BLACK HEART BULLET
  bLIGHT FOUR POINTED BLACK CUSP bWHITE FOUR POINTED CUSP aROUND PUSHPIN bTARGET aROUNDED SYMBOL
  FOR CAI dFU dLU dSHOU dSHUANGXI dXI aROWBOAT aRS aRUBLE SIGN aRUGBY FOOTBALL aRULE-DELAYED aRUMI
  DIGIT EIGHT cFIVE cFOUR cNINE cONE cSEVEN cSIX cTHREE cTWO bFRACTION ONE HALF dQUARTER dTHIRD
  cTWO THIRDS bNUMBER EIGHT HUNDRED cEIGHTY cFIFTY cFIVE HUNDRED cFORTY cFOUR HUNDRED cNINE HUNDRED
  cNINETY cONE HUNDRED cSEVEN HUNDRED cSEVENTY cSIX HUNDRED cSIXTY cTEN cTHIRTY cTHREE HUNDRED
  cTWENTY cTWO HUNDRED aRUNIC ARLAUG SYMBOL bBELGTHOR SYMBOL bCROSS PUNCTUATION bLETTER AC A cAESC
  cALGIZ EOLHX cANSUZ A cBERKANAN BEORC BJARKAN B cC cCALC cCEALC cCEN cCWEORTH cD cDAGAZ DAEG D
  cDOTTED-L cDOTTED-N cDOTTED-P cE cEAR cEHWAZ EH E cENG cETH cFEHU FEOH FE F cFRANKS CASKET AC
  eAESC eEH eIS eOS cG cGAR cGEBO GYFU G cGER cHAEGL H cHAGLAZ H cICELANDIC-YR cING cINGWAZ cIOR
  cISAZ IS ISS I cIWAZ EOH cJERAN J cK cKAUN K cKAUNA cLAUKAZ LAGU LOGR L cLONG-BRANCH-AR AE
  cLONG-BRANCH-HAGALL H cLONG-BRANCH-MADR M cLONG-BRANCH-OSS O cLONG-BRANCH-YR cMANNAZ MAN M
  cNAUDIZ NYD NAUD N cO cOE cON cOO cOPEN-P cOS O cOTHALAN ETHEL O cPERTHO PEORTH P cQ cRAIDO RAD
  REID R cSH cSHORT-TWIG-AR A cSHORT-TWIG-BJARKAN B cSHORT-TWIG-HAGALL H cSHORT-TWIG-MADR M
  cSHORT-TWIG-NAUD N cSHORT-TWIG-OSS O cSHORT-TWIG-SOL S cSHORT-TWIG-TYR T cSHORT-TWIG-YR cSIGEL
  LONG-BRANCH-SOL S cSOWILO S cSTAN cTHURISAZ THURS THORN cTIWAZ TIR TYR T cURUZ UR U cV cW cWUNJO
  WYNN W cX cY cYR cZ bMULTIPLE PUNCTUATION bSINGLE PUNCTUATION bTVIMADUR SYMBOL aRUNNER aRUNNING
  SHIRT WITH SASH aRUPEE SIGN aRUSSIAN ASTROLOGICAL SYMBOL BINOVILE dNOVILE dQUINTILE dSENTAGON
  dTREDECILE dVIGINTILE aS IN TRIANGLE aSAFETY PIN bVEST aSAGITTARIUS aSAILBOAT aSAKE BOTTLE AND
  CUP aSALT SHAKER aSALTIRE aSALUTING FACE aSAMARITAN ABBREVIATION MARK bLETTER ALAF cBAA cBIT
  cDALAT cFI cGAMAN cIN cIT cIY cKAAF cLABAT cMIM cNUN cQUF cRISH cSHAN cSINGAAT cTAAF cTIT
  cTSAADIY cYUT cZEN bMARK DAGESH cEPENTHETIC YUT cIN cIN-ALAF cNEQUDAA cOCCLUSION bMODIFIER LETTER
  EPENTHETIC YUT dI dSHORT A bPUNCTUATION AFSAAQ cANGED cANNAAU cARKAANU cATMAAU cBAU cMELODIC
  QITSA cNEQUDAA cQITSA cSHIYYAALAA cSOF MASHFAAT cTURU cZAEF cZIQAA bVOWEL SIGN A dAA dE dI dLONG
  A eAA eE eI eU dO dOVERLONG A eAA dSHORT A dSUKUN dU aSANDWICH aSANS-SERIF HEAVY DOUBLE COMMA
  QUOTATION MARK ORNAMENT dTURNED COMMA QUOTATION MARK ORNAMENT cLOW DOUBLE COMMA QUOTATION MARK
  ORNAMENT bINTERROBANG ORNAMENT aSARI aSATELLITE bANTENNA aSATURN aSAURASHTRA CONSONANT SIGN HAARU
  bDANDA bDIGIT EIGHT cFIVE cFOUR cNINE cONE cSEVEN cSIX cTHREE cTWO cZERO bDOUBLE DANDA bLETTER A
  cAA cAI cAU cBA cBHA cCA cCHA cDA cDDA cDDHA cDHA cE cEE cGA cGHA cHA cI cII cJA cJHA cKA cKHA
  cLA cLLA cMA cNA cNGA cNNA cNYA cO cOO cPA cPHA cRA cSA cSHA cSSA cTA cTHA cTTA cTTHA cU cUU cVA
  cVOCALIC L dLL dR dRR cYA bSIGN ANUSVARA cCANDRABINDU cVIRAMA cVISARGA bVOWEL SIGN AA dAI dAU dE
  dEE dI dII dO dOO dU dUU dVOCALIC L eLL eR eRR aSAUROPOD aSAXOPHONE aSCALES aSCARF aSCHOOL
  bSATCHEL aSCI aSCOOTER aSCORPION aSCORPIUS aSCREEN aSCREWDRIVER aSCRIPT CAPITAL B cE cF cH cI cL
  cM cP cR bLIGATURE ET ORNAMENT bSMALL E cG cL cO aSCROLL aSCRUPLE aSEAL aSEAT aSECOND PLACE MEDAL
  aSECTION SIGN aSECTOR aSEDNA aSEE-NO-EVIL MONKEY aSEEDLING aSEGMENT aSEGMENTED DIGIT EIGHT cFIVE
  cFOUR cNINE cONE cSEVEN cSIX cTHREE cTWO cZERO aSELFIE aSEMICOLON aSEMIDIRECT PRODUCT WITH BOTTOM
  CLOSED aSEMISEXTILE aSEPARATED SYMBOL aSERIOUS FACE WITH SYMBOLS COVERING MOUTH aSERVICE MARK
  aSESAME DOT aSESQUIQUADRATE aSET MINUS bTRANSMIT STATE aSEWING NEEDLE aSEXTILE aSGC aSHADOWED
  WHITE CIRCLE cLATIN CROSS cSTAR aSHALLOW PAN OF FOOD aSHAMROCK aSHARADA ABBREVIATION SIGN
  bCONTINUATION SIGN bDANDA bDIGIT EIGHT cFIVE cFOUR cNINE cONE cSEVEN cSIX cTHREE cTWO cZERO
  bDOUBLE DANDA bEKAM bEXTRA SHORT VOWEL MARK bHEADSTROKE bLETTER A cAA cAI cAU cBA cBHA cCA cCHA
  cDA cDDA cDDHA cDHA cE cGA cGHA cHA cI cII cJA cJHA cKA cKHA cLA cLLA cMA cNA cNGA cNNA cNYA cO
  cPA cPHA cRA cSA cSHA cSSA cTA cTHA cTTA cTTHA cU cUU cVA cVOCALIC L dLL dR dRR cYA bOM bSANDHI
  MARK bSECTION MARK-1 cMARK-2 bSEPARATOR bSIGN ANUSVARA cAVAGRAHA cCANDRABINDU cINVERTED
  CANDRABINDU cJIHVAMULIYA cNUKTA cSIDDHAM cUPADHMANIYA cVIRAMA cVISARGA bSUTRA MARK bVOWEL
  MODIFIER MARK cSIGN AA dAI dAU dE dI dII dO dPRISHTHAMATRA E dU dUU dVOCALIC L eLL eR eRR aSHARK
  aSHAVED ICE aSHAVIAN LETTER ADO cAGE cAH cAIR cARE cARRAY cASH cAWE cBIB cCHURCH cDEAD cEAR cEAT
  cEGG cERR cFEE cGAG cHA-HA cHUNG cIAN cICE cIF cJUDGE cKICK cLOLL cMEASURE cMIME cNUN cOAK cOIL
  cON cOOZE cOR cOUT cPEEP cROAR cSO cSURE cTHEY cTHIGH cTOT cUP cVOW cWOE cWOOL cYEA cYEW cZOO
  aSHEEP aSHIELD aSHIFT IN bOUT aSHINTO SHRINE aSHIP aSHOCKED FACE WITH EXPLODING HEAD aSHOOTING
  STAR aSHOPPING BAGS bTROLLEY aSHORT BACKSLANTED SOUTH ARROW bBENT ARROW POINTING DOWNWARDS THEN
  NORTH EAST bDOWN TACK dWITH OVERBAR bLEFT TACK bRIGHTWARDS ARROW ABOVE LEFTWARDS ARROW bSLANTED
  NORTH ARROW bUP TACK dABOVE SHORT DOWN TACK dWITH UNDERBAR aSHORTCAKE aSHORTHAND FORMAT
  CONTINUING OVERLAP cDOWN STEP cLETTER OVERLAP cUP STEP aSHORTS aSHOULDERED OPEN BOX aSHOWER
  aSHRIMP aSHRUG aSHUFFLE PRODUCT aSHY aSI aSIDDHAM DANDA bDOUBLE DANDA bEND OF TEXT MARK bLETTER A
  cAA cAI cALTERNATE U cAU cBA cBHA cCA cCHA cDA cDDA cDDHA cDHA cE cGA cGHA cHA cI cII cJA cJHA
  cKA cKHA cLA cMA cNA cNGA cNNA cNYA cO cPA cPHA cRA cSA cSHA cSSA cTA cTHA cTHREE-CIRCLE
  ALTERNATE I cTTA cTTHA cTWO-CIRCLE ALTERNATE I eII cU cUU cVA cVOCALIC L dLL dR dRR cYA
  bREPETITION MARK-1 cMARK-2 cMARK-3 bSECTION MARK DOUBLE RING fWITH RAYS dWITH CIRCLES AND FOUR
  ENCLOSURES gRAYS gTWO ENCLOSURES eDOUBLE CRESCENTS eQUADRUPLE CRESCENTS eRAYS AND DOTTED
  CRESCENTS hDOUBLE CRESCENTS hTRIPLE CRESCENTS eSEPTUPLE CRESCENTS eTRIDENT AND DOTTED CRESCENTS
  gU-SHAPED ORNAMENTS eTRIPLE CRESCENTS bSEPARATOR BAR cDOT bSIGN ANUSVARA cCANDRABINDU cNUKTA
  cSIDDHAM cVIRAMA cVISARGA bVOWEL SIGN AA dAI dALTERNATE U eUU dAU dE dI dII dO dU dUU dVOCALIC R
  eRR aSIDEWAYS BLACK DOWN POINTING INDEX cLEFT POINTING INDEX cRIGHT POINTING INDEX cUP POINTING
  INDEX bWHITE DOWN POINTING INDEX cLEFT POINTING INDEX cRIGHT POINTING INDEX cUP POINTING INDEX
  aSIGN OF THE HORNS aSIGNWRITING AIR BLOW SMALL ROTATIONS cBLOWING OUT cSUCK SMALL ROTATIONS
  cSUCKING IN bBREATH EXHALE cINHALE bBRUSH BETWEEN cMULTIPLE cSINGLE bCHEEKS NEUTRAL cPUFFED
  cSUCKED bCOLON bCOMMA bDREAMY EYEBROWS DOWN NEUTRAL dNEUTRAL DOWN eUP dUP NEUTRAL bDYNAMIC
  ARROWHEAD LARGE dSMALL cEVERY OTHER TIME cFAST cGRADUAL cRELAXED cSIMULTANEOUS dALTERNATING cSLOW
  cTENSE bEARS bEXCITEMENT bEYE BLINK MULTIPLE dSINGLE cWINK bEYEBROWS STRAIGHT DOWN dNEUTRAL dUP
  bEYEGAZE-FLOORPLANE CURVED cSTRAIGHT dALTERNATING dDOUBLE bEYEGAZE-WALLPLANE CIRCLING cCURVED
  cSTRAIGHT dALTERNATING dDOUBLE bEYELASHES DOWN cFLUTTERING cUP bEYES CLOSED cHALF CLOSED dOPEN
  cOPEN cSQUEEZED cWIDE OPEN cWIDENING MOVEMENT bFACE DIRECTION POSITION NOSE FORWARD TILTING fUP
  OR DOWN iTILTING bFILL MODIFIER-2 cMODIFIER-3 cMODIFIER-4 cMODIFIER-5 cMODIFIER-6 bFINGER bFLICK
  LARGE MULTIPLE dSINGLE cSEQUENTIAL cSMALL MULTIPLE dSINGLE bFLOORPLANE SHOULDER HIP MOVE
  bFOREHEAD CONTACT cNEUTRAL cWRINKLED bFULL STOP bGRASP BETWEEN cMULTIPLE cSINGLE bHAIR
  bHAND-ANGLE cINDEX dMIDDLE LITTLE eRING dRING LITTLE fOUT dTHUMB eIN eOUT cLITTLE INDEX eTHUMB
  INDEX THUMB hOUT dUP cMIDDLE RING LITTLE fIN fOUT cRING DOWN MIDDLE THUMB INDEX CROSS dLITTLE
  bHAND-CIRCLE cINDEX dBENT dHINGE dMIDDLE eCROSS LITTLE eCROSSED eLITTLE eRING eTHUMB dRING LITTLE
  cLITTLE INDEX dUP cMIDDLE RING LITTLE fBENT dUP cRING LITTLE bHAND-CLAW cFOUR FINGERS CONJOINED
  cINDEX THUMB CURVE THUMB INSIDE cMIDDLE RING LITTLE CONJOINED gSIDE cNO THUMB cTHUMB FORWARD
  dSIDE bHAND-CUP cFIVE FINGERS SPREAD fOPEN cINDEX dRING LITTLE dTHUMB eOPEN cMIDDLE RING LITTLE
  cNO THUMB cOPEN dNO THUMB dTHUMB FORWARD eSIDE cTHUMB FORWARD dSIDE bHAND-CURLICUE cINDEX RING
  LITTLE ON cMIDDLE RING LITTLE ON cOPEN bHAND-FIST cFOUR FINGERS CONJOINED BENT cHEEL cINDEX dBENT
  eOVER MIDDLE dCUPPED dHINGED eLOW eMIDDLE UP gTHUMB SIDE dMIDDLE eBENT fTHUMB STRAIGHT eCONJOINED
  fCUPPED gTHUMB FORWARD fHINGED gTHUMB SIDE fINDEX BENT fMIDDLE BENT fTHUMB FORWARD gSIDE hBENT
  hCONJOINED eCROSS LITTLE eCROSSED fTHUMB SIDE eHINGED fSPREAD THUMB SIDE eLITTLE eRAISED KNUCKLES
  eRING fBENT fCONJOINED eSTRAIGHT THUMB BENT eTHUMB fANGLED gOUT fBENT fCIRCLED fCONJOINED HINGED
  fCUPPED fHINGED fHOOKED eUP SPREAD THUMB FORWARD dRAISED KNUCKLE dRING LITTLE dTHUMB ANGLED IN
  MIDDLE UP fOUT MIDDLE UP eCIRCLE eCIRCLED MIDDLE UP eCUPPED MIDDLE UP eCURLICUE eCURVE THUMB
  INSIDE gUNDER eFORWARD INDEX BENT gSTRAIGHT eHOOK eHOOKED MIDDLE HINGED gUP eSIDE fBOTH BENT
  fINDEX BENT gHINGE fTHUMB BENT gCONJOINED gDIAGONAL dUP MIDDLE HINGED gTHUMB CONJOINED hSIDE
  cLITTLE BENT dDOWN eOTHERS CIRCLED eRIPPLE CURVED fSTRAIGHT dINDEX eTHUMB dRAISED KNUCKLE dTHUMB
  dTOUCHES THUMB dUP cMIDDLE BENT OVER INDEX dDOWN dLITTLE dRAISED KNUCKLE dRING LITTLE dTHUMB
  ANGLED INDEX UP fOUT INDEX CROSSED hUP eCIRCLED INDEX HINGED gUP eCUPPED INDEX UP eHOOKED INDEX
  UP eLITTLE dUP eTHUMB SIDE cRING DOWN dINDEX dLITTLE dMIDDLE eCONJOINED eRAISED KNUCKLES dRAISED
  KNUCKLE dTHUMB dUP cTHUMB dBETWEEN INDEX MIDDLE gSTRAIGHT eMIDDLE RING eRING LITTLE dFORWARD
  dHEEL dOVER FOUR RAISED KNUCKLES eTWO FINGERS dSIDE BENT eCONJOINED eDIAGONAL dUNDER FOUR FINGERS
  eINDEX BENT eLITTLE UP eTHREE FINGERS eTWO FINGERS bHAND-FLAT cBETWEEN PALM FACINGS cFIVE FINGERS
  SPREAD fBENT fFOUR BENT fHINGED gNO THUMB gTHUMB SIDE fTHUMB FORWARD cFOUR FINGERS eBENT
  eCONJOINED fSPLIT eHINGED cHEEL dFIVE FINGERS SPREAD gBENT gFOUR BENT dTHUMB SIDE cSPLIT CENTRE
  eTHUMB SIDE gBENT dINDEX THUMB SIDE dLITTLE cTHUMB BENT dFORWARD dSIDE bHAND-HINGE cFIVE FINGERS
  SPREAD OPEN cFOUR FINGERS CONJOINED cINDEX dHINGED dMIDDLE LITTLE eRING fCONJOINED dRING LITTLE
  dTHUMB eLARGE eOPEN eSIDE eSMALL cLITTLE dINDEX eTHUMB dTHUMB cMIDDLE dRING LITTLE cNO THUMB
  cOPEN dNO THUMB dTHUMB FORWARD eSIDE cRING dDOWN INDEX THUMB HOOK MIDDLE cSMALL cTHUMB BETWEEN
  MIDDLE RING dSIDE eTOUCHING INDEX bHAND-HOOK cCURLICUE cINDEX RING LITTLE IN fOUT fUNDER cMIDDLE
  RING LITTLE CONJOINED gIN gOUT dTHUMB cRING THUMB bHAND-OVAL cFIVE FINGERS SPREAD cINDEX cLITTLE
  UP cNO THUMB cRING LITTLE cTHUMB FORWARD dSIDE bHEAD cMOVEMENT CIRCLE cMOVEMENT-FLOORPLANE CURVE
  dSTRAIGHT cMOVEMENT-WALLPLANE CURVE dSTRAIGHT dTILT cRIM bLIMB COMBINATION cLENGTH-1 cLENGTH-2
  cLENGTH-3 cLENGTH-4 cLENGTH-5 cLENGTH-6 cLENGTH-7 bLIP LOWER OVER UPPER cUPPER OVER LOWER bLIPS
  PRESSED TOGETHER bLOCATION DEPTH cHEAD NECK cHEIGHT cLIMBS DIGITS cTORSO cWIDTH
  bLOCATION-FLOORPLANE SPACE bLOCATION-WALLPLANE SPACE bMOUTH CLOSED CONTACT dFORWARD dNEUTRAL
  cCORNERS cFROWN dOPEN dWRINKLED cKISS dFORWARD dWRINKLED cOPEN CIRCLE dFORWARD dOVAL eWRINKLED
  eYAWN dRECTANGLE eWRINKLED eYAWN dWRINKLED cSMILE dOPEN dWRINKLED cTENSE dFORWARD dSUCKED
  cWRINKLES DOUBLE dSINGLE bMOVEMENT-DIAGONAL AWAY LARGE dLARGEST dMEDIUM dSMALL cBETWEEN AWAY
  LARGE eLARGEST eMEDIUM eSMALL dTOWARDS LARGE eLARGEST eMEDIUM eSMALL cTOWARDS LARGE dLARGEST
  dMEDIUM dSMALL bMOVEMENT-FLOORPLANE ARM CIRCLE HITTING WALL LARGE DOUBLE hSINGLE gMEDIUM DOUBLE
  hSINGLE gSMALL DOUBLE hSINGLE cBEND cBOX LARGE dMEDIUM dSMALL cCHECK cCORNER LARGE dMEDIUM dSMALL
  cCROSS cCURVE COMBINED dHITTING CEILING LARGE fSMALL eFLOOR LARGE fSMALL dLARGE dLARGEST dMEDIUM
  dSMALL cDOUBLE ALTERNATING eWRIST FLEX dSTRAIGHT dWRIST FLEX cFINGER CIRCLES HITTING WALL DOUBLE
  gSINGLE dCONTACT cHUMP HITTING CEILING LARGE DOUBLE gTRIPLE fSMALL DOUBLE gTRIPLE eFLOOR LARGE
  DOUBLE fSMALL DOUBLE fTRIPLE LARGE TRIPLE gSMALL TRIPLE dSMALL cJAW cLOOP HITTING CEILING LARGE
  DOUBLE gSINGLE fSMALL DOUBLE gSINGLE eFLOOR LARGE DOUBLE gSINGLE fSMALL DOUBLE gSINGLE dSMALL
  cPEAKS LARGE dMEDIUM dSMALL cSHAKING PARALLEL cSINGLE STRAIGHT LARGE eLARGEST eMEDIUM eSMALL
  dWRIST FLEX cTRIPLE ALTERNATING MOVEMENT eWRIST FLEX dSTRAIGHT MOVEMENT dWRIST FLEX cWAVE HITTING
  CEILING LARGE fSMALL eFLOOR LARGE fSMALL dLARGE dSMALL dSNAKE cWRIST CIRCLE HITTING WALL DOUBLE
  gSINGLE cZIGZAG LARGE dMEDIUM dSMALL bMOVEMENT-HINGE DOWN SEQUENTIAL cSIDE TO SIDE SCISSORS cUP
  DOWN ALTERNATING LARGE fSMALL eLARGE eSMALL dSEQUENTIAL bMOVEMENT-WALLPLANE ARM CIRCLE MEDIUM
  DOUBLE fSINGLE eSMALL DOUBLE fSINGLE cBEND LARGE dMEDIUM dSMALL cBOX LARGE dMEDIUM dSMALL cCHECK
  LARGE dMEDIUM dSMALL cCORNER LARGE dMEDIUM dROTATION dSMALL cCROSS cCURVE HALF-CIRCLE LARGE
  eLARGEST eMEDIUM eSMALL dHITTING CHEST eFRONT WALL dQUARTER LARGE eLARGEST eMEDIUM eSMALL dTHEN
  STRAIGHT dTHREE-QUARTER CIRCLE MEDIUM fSMALL cCURVED CROSS MEDIUM eSMALL cDOUBLE ALTERNATING
  eWRIST FLEX dSTRAIGHT dWRIST FLEX cFINGER CIRCLES DOUBLE eSINGLE dCONTACT cHUMP HITTING CHEST
  eFRONT WALL dLARGE dMEDIUM dSMALL cJAW cLOOP HITTING CHEST eFRONT WALL dLARGE dMEDIUM dSMALL
  eDOUBLE cPEAKS LARGE dMEDIUM dSMALL cSHAKING cSINGLE STRAIGHT LARGE eLARGEST eMEDIUM eSMALL
  dWRIST FLEX cTRIPLE ALTERNATING eWRIST FLEX dSTRAIGHT MOVEMENT dWRIST FLEX cWAVE CURVE DOUBLE
  LARGE fMEDIUM fSMALL eTRIPLE LARGE fMEDIUM fSMALL dDIAGONAL PATH LARGE fMEDIUM fSMALL dHITTING
  CHEST eFRONT WALL cWRIST CIRCLE FRONT DOUBLE fSINGLE cZIGZAG LARGE dMEDIUM dSMALL bNECK bNOSE
  CONTACT cNEUTRAL cWIGGLES cWRINKLES bPARENTHESIS bROTATION MODIFIER-10 cMODIFIER-11 cMODIFIER-12
  cMODIFIER-13 cMODIFIER-14 cMODIFIER-15 cMODIFIER-16 cMODIFIER-2 cMODIFIER-3 cMODIFIER-4
  cMODIFIER-5 cMODIFIER-6 cMODIFIER-7 cMODIFIER-8 cMODIFIER-9 bROTATION-FLOORPLANE ALTERNATING
  dHITTING CEILING eFLOOR cDOUBLE dHITTING CEILING eFLOOR cSINGLE dHITTING CEILING eFLOOR
  bROTATION-WALLPLANE ALTERNATE cALTERNATING HITTING CHEST eFRONT WALL cDOUBLE dHITTING CHEST
  eFRONT WALL cSINGLE dHITTING CHEST eFRONT WALL bRUB BETWEEN cMULTIPLE cSINGLE bSEMICOLON
  bSHOULDER HIP POSITIONS dSPINE cTILTING FROM WAIST bSQUEEZE FLICK ALTERNATING cLARGE MULTIPLE
  dSINGLE cSEQUENTIAL cSMALL MULTIPLE dSINGLE bSTRIKE BETWEEN cMULTIPLE cSINGLE bSURFACE BETWEEN
  cSYMBOLS bTEETH cBITE LIPS cMOVEMENT cON LIPS eMOVEMENT dTONGUE eMOVEMENT bTENSE CHEEKS HIGH dLOW
  dMIDDLE bTONGUE CENTRE INSIDE MOUTH dSTICKING OUT cINSIDE MOUTH RELAXED cLICKING LIPS cMOVES
  AGAINST CHEEK cSTICKING OUT FAR cTIP BETWEEN LIPS dTOUCHING INSIDE MOUTH bTORSO-FLOORPLANE
  TWISTING bTORSO-WALLPLANE CURVED BEND cSTRAIGHT STRETCH bTOUCH BETWEEN cMULTIPLE cSINGLE
  bTRAVEL-FLOORPLANE ROTATION-FLOORPLANE ALTERNATING dDOUBLE dSINGLE cROTATION-WALLPLANE
  ALTERNATING dDOUBLE dSINGLE cSHAKING bTRAVEL-WALLPLANE ARM SPIRAL DOUBLE eSINGLE eTRIPLE
  cROTATION-FLOORPLANE ALTERNATING dDOUBLE dSINGLE cROTATION-WALLPLANE ALTERNATING dDOUBLE dSINGLE
  cSHAKING bUPPER BODY TILTING FROM HIP JOINTS bWALLPLANE SHOULDER HIP MOVE aSILHOUETTE OF JAPAN
  aSIMILAR ABOVE GREATER-THAN ABOVE EQUALS SIGN cLESS-THAN ABOVE EQUALS SIGN bMINUS SIMILAR bOR
  GREATER-THAN cLESS-THAN aSINE WAVE aSINGLE CHARACTER INTRODUCER bGRAPHIC CHARACTER INTRODUCER
  bHIGH-REVERSED-9 QUOTATION MARK bLEFT-POINTING ANGLE QUOTATION MARK bLOW-9 QUOTATION MARK
  bRIGHT-POINTING ANGLE QUOTATION MARK bSHIFT THREE cTWO aSINGLE-SHIFT-2 aSINGLE-SHIFT-3 aSINHALA
  ARCHAIC DIGIT EIGHT dFIVE dFOUR dNINE dONE dSEVEN dSIX dTHREE dTWO cNUMBER EIGHTY dFIFTY dFORTY
  dNINETY dONE HUNDRED eTHOUSAND dSEVENTY dSIXTY dTEN dTHIRTY dTWENTY bLETTER AAYANNA cAEEYANNA
  cAEYANNA cAIYANNA cALPAPRAANA BAYANNA dCAYANNA dDAYANNA dDDAYANNA dGAYANNA dJAYANNA dKAYANNA
  dPAYANNA dTAYANNA dTTAYANNA cAMBA BAYANNA cAUYANNA cAYANNA cDANTAJA LAYANNA dNAYANNA dSAYANNA
  cEEYANNA cEYANNA cFAYANNA cHAYANNA cIIYANNA cILUUYANNA cILUYANNA cIRUUYANNA cIRUYANNA cIYANNA
  cKANTAJA NAASIKYAYA cMAHAAPRAANA BAYANNA dCAYANNA dDAYANNA dDDAYANNA dGAYANNA dJAYANNA dKAYANNA
  dPAYANNA dTAYANNA dTTAYANNA cMAYANNA cMUURDHAJA LAYANNA dNAYANNA dSAYANNA cOOYANNA cOYANNA
  cRAYANNA cSANYAKA DAYANNA dDDAYANNA dGAYANNA dJAYANNA cTAALUJA NAASIKYAYA dSANYOOGA NAAKSIKYAYA
  dSAYANNA cUUYANNA cUYANNA cVAYANNA cYAYANNA bLITH DIGIT EIGHT dFIVE dFOUR dNINE dONE dSEVEN dSIX
  dTHREE dTWO dZERO bPUNCTUATION KUNDDALIYA bSIGN AL-LAKUNA cANUSVARAYA cCANDRABINDU cVISARGAYA
  bVOWEL SIGN AELA-PILLA dDIGA AEDA-PILLA eGAETTA-PILLA eGAYANUKITTA eIS-PILLA eKOMBUVA ePAA-PILLA
  dGAETTA-PILLA dGAYANUKITTA dKETTI AEDA-PILLA eIS-PILLA ePAA-PILLA dKOMBU DEKA dKOMBUVA eHAA
  AELA-PILLA fDIGA AELA-PILLA fGAYANUKITTA aSIX PETALLED BLACK AND WHITE FLORETTE bPOINTED BLACK
  STAR cPINWHEEL STAR cSTAR WITH MIDDLE DOT aSIX-PER-EM SPACE aSIXTEEN POINTED ASTERISK aSKATEBOARD
  aSKI AND SKI BOOT aSKIER aSKULL bAND CROSSBONES aSKUNK aSLANTED EQUAL TO OR GREATER-THAN fWITH
  DOT INSIDE eLESS-THAN fWITH DOT INSIDE bNORTH ARROW WITH HOOKED HEAD eHORIZONTAL TAIL aSLAVONIC
  ASTERISK aSLED aSLEEPING ACCOMMODATION bFACE bSYMBOL aSLEEPY FACE aSLEUTH OR SPY aSLICE OF PIZZA
  aSLIGHTLY FROWNING FACE bSMILING FACE aSLOPE aSLOPING LARGE AND cOR aSLOT MACHINE aSLOTH aSMALL
  AIRPLANE bAMPERSAND bASTERISK bBLUE DIAMOND bCOLON bCOMMA bCOMMERCIAL AT bCONTAINS AS MEMBER
  cWITH OVERBAR dVERTICAL BAR AT END OF HORIZONTAL STROKE bDOLLAR SIGN bELEMENT OF dWITH OVERBAR
  eVERTICAL BAR AT END OF HORIZONTAL STROKE bEM DASH bEQUALS SIGN bEXCLAMATION MARK bFULL STOP
  bGREATER-THAN SIGN bHYPHEN-MINUS bIDEOGRAPHIC COMMA bLEFT CURLY BRACKET cPARENTHESIS cTORTOISE
  SHELL BRACKET bLESS-THAN SIGN bNUMBER SIGN bORANGE DIAMOND bPERCENT SIGN bPLUS SIGN bQUESTION
  MARK bREVERSE SOLIDUS bRIGHT CURLY BRACKET cPARENTHESIS cTORTOISE SHELL BRACKET bROMAN NUMERAL
  EIGHT dELEVEN dFIFTY dFIVE eHUNDRED dFOUR dNINE dONE eHUNDRED eTHOUSAND dSEVEN dSIX dTEN dTHREE
  dTWELVE dTWO bSEMICOLON bTILDE bTWO DOTS OVER ONE DOT PUNCTUATION bVEE WITH UNDERBAR aSMALLER
  THAN cOR EQUAL TO aSMASH PRODUCT aSMILE aSMILING CAT FACE WITH HEART-SHAPED EYES eOPEN MOUTH
  bFACE WITH HALO dHEART-SHAPED EYES dHORNS dOPEN MOUTH fAND COLD SWEAT gSMILING EYES
  gTIGHTLY-CLOSED EYES dSMILING EYES fAND HAND COVERING MOUTH gTHREE HEARTS dSUNGLASSES dTEAR
  aSMIRKING FACE aSMOKING SYMBOL aSNAIL aSNAKE aSNEEZING FACE aSNOW CAPPED MOUNTAIN aSNOWBOARDER
  aSNOWFLAKE aSNOWMAN bWITHOUT SNOW aSO aSOCCER BALL aSOCKS aSOFT HYPHEN bICE CREAM bSHELL FLOPPY
  DISK aSOFTBALL aSOFTWARE-FUNCTION SYMBOL aSOGDIAN COMBINING CURVE ABOVE dBELOW cDOT ABOVE dBELOW
  cHOOK ABOVE dBELOW cLONG HOOK BELOW cRESH BELOW cSTROKE BELOW cTWO DOTS ABOVE eBELOW bINDEPENDENT
  SHIN bLETTER ALEPH cAYIN cBETH cFETH cGIMEL cHE cHETH cKAPH cLAMEDH cLESH cMEM cNUN cPE
  cRESH-AYIN cSADHE cSAMEKH cSHIN cTAW cWAW cYODH cZAYIN bNUMBER ONE dHUNDRED cTEN cTWENTY
  bPUNCTUATION CIRCLE WITH DOT cHALF CIRCLE WITH DOT cTWO CIRCLES WITH DOTS dVERTICAL BARS fWITH
  DOTS aSOH aSOLID QUILT SQUARE ORNAMENT eIN BLACK SQUARE aSOLIDUS bWITH OVERBAR aSOM SIGN aSOON
  WITH RIGHTWARDS ARROW ABOVE aSORA SOMPENG DIGIT EIGHT dFIVE dFOUR dNINE dONE dSEVEN dSIX dTHREE
  dTWO dZERO cLETTER AH dBAH dCAH dDAH dEEH dEH dGAH dHAH dIH dJAH dKAH dLAH dMAE dMAH dNAH dNGAH
  dNYAH dOH dPAH dRAH dSAH dTAH dUH dVAH dYAH aSOS aSOUND RECORDING COPYRIGHT aSOUTH EAST ARROW
  dAND SOUTH WEST ARROW dCROSSING NORTH EAST ARROW dTO CORNER dWITH HOOK cBLACK ARROW cDOUBLE ARROW
  cPOINTING BUD dLEAF dVINE LEAF cSANS-SERIF ARROW cTRIANGLE-HEADED ARROW eTO BAR cWHITE ARROW
  bWEST ARROW dAND NORTH WEST ARROW dWITH HOOK cBLACK ARROW cDOUBLE ARROW cPOINTING BUD dLEAF dVINE
  LEAF cSANS-SERIF ARROW cTRIANGLE-HEADED ARROW eTO BAR cWHITE ARROW aSOYOMBO CLUSTER-INITIAL
  LETTER LA dRA dSA dSHA bFINAL CONSONANT SIGN -A eB eD eG eK eL eM eN eNG eR eS eSH bGEMINATION
  MARK bHEAD MARK WITH MOON AND SUN hAND FLAME iTRIPLE FLAME bLETTER -A cA cBA cBHA cCA cCHA cDA
  cDDA cDDHA cDHA cDZA cGA cGHA cHA cJA cJHA cKA cKHA cKSSA cLA cMA cNA cNGA cNNA cNYA cPA cPHA cRA
  cSA cSHA cSSA cTA cTHA cTSA cTSHA cTTA cTTHA cVA cYA cZA cZHA bMARK DOUBLE SHAD cPLUTA cSHAD
  cTSHEG bSIGN ANUSVARA cJIHVAMULIYA cUPADHMANIYA cVISARGA bSUBJOINER bTERMINAL MARK-1 cMARK-2
  bVOWEL LENGTH MARK cSIGN AI dAU dE dI dO dOE dU dUE dVOCALIC L eR aSP aSPA aSPACE aSPAGHETTI
  aSPARKLE aSPARKLES aSPARKLING HEART aSPEAK-NO-EVIL MONKEY aSPEAKER bWITH CANCELLATION STROKE cONE
  SOUND WAVE cTHREE SOUND WAVES aSPEAKING HEAD IN SILHOUETTE aSPEECH BALLOON aSPEEDBOAT aSPESMILO
  SIGN aSPHERICAL ANGLE cOPENING LEFT dUP aSPIDER bWEB aSPIRAL CALENDAR PAD bNOTE PAD bSHELL
  aSPLASHING SWEAT SYMBOL aSPONGE aSPOOL OF THREAD aSPOON aSPORTS MEDAL aSPOUTING WHALE aSQUARE A
  OVER M bAARU bAM bANPEA bAPAATO bARUHUA bAU bBAARERU bBAR bBEETA bBIRU bBORUTO bBQ bBUSSYERU bC
  OVER KG bCAL bCAP bCC bCD bCM cCUBED cSQUARED bCO bCORPORATION bCUP bDA bDAASU bDB bDESI bDJ bDL
  bDM cCUBED cSQUARED bDORU bEEKAA bERA NAME HEISEI dMEIZI dREIWA dSYOUWA dTAISYOU bERG bESUKUUDO
  bEV bFM bFOOT bFOUR CORNERS bGAL bGANMA bGARON bGB bGHZ bGIGA bGINII bGIRUDAA bGPA bGURAMU
  bGURAMUTON bGY bHA bHAITU bHEKUTAARU bHERUTU bHG bHIRAGANA HOKA bHON bHOON bHOORU bHP bHPA
  bHUARADDO bHUIITO bHURAN bHZ bIMAGE OF dOR EQUAL TO eNOT EQUAL TO bIN bININGU bINTI bIU bK OHM
  bKA bKAIRI bKARATTO bKARORII bKB bKCAL bKEESU bKG bKHZ bKIRO bKIROGURAMU bKIROMEETORU bKIROWATTO
  bKK bKL bKM cCAPITAL cCUBED cSQUARED bKOOPO bKORUNA bKPA bKT bKUROONE bKURUZEIRO bKV bKW bKYURII
  bLEFT OPEN BOX OPERATOR bLM bLN bLOG bLOZENGE bLX bM CUBED cOHM cOVER S eSQUARED cSQUARED bMA
  bMAHHA bMAIKURO bMAIRU bMANSYON bMARUKU bMB cSMALL bMEETORU bMEGA bMEGATON bMG bMHZ bMIKURON bMIL
  bMIRI bMIRIBAARU bML bMM cCUBED cSQUARED bMOL bMPA bMS bMU A cF cG cL cM cS cV cW bMV cMEGA bMW
  cMEGA bNA bNANO bNF bNM bNOTTO bNS bNV bNW bONSU bOOMU bORIGINAL OF dOR EQUAL TO eNOT EQUAL TO
  bOV bPA cAMPS bPAASENTO bPAATU bPC bPEEZI bPENIHI bPENSU bPESO bPF bPH bPIASUTORU bPIKO bPIKURU
  bPM bPOINTO bPONDO bPOSITION INDICATOR bPPM bPR bPS bPV bPW bRAD cOVER S eSQUARED bREMU bRENTOGEN
  bRIGHT OPEN BOX OPERATOR bRIRA bRITTORU bROOT bRUPII bRUUBURU bSAIKURU bSANTIIMU bSENTI bSENTO
  bSIRINGU bSR bSV bTARGET bTHZ bTON bUON bV OVER M bWATTO bWB bWITH BOTTOM HALF BLACK cCONTOURED
  OUTLINE cDIAGONAL CROSSHATCH FILL cHORIZONTAL FILL cLEFT HALF BLACK cLOWER LEFT DIAGONAL HALF
  BLACK dRIGHT DIAGONAL HALF BLACK cORTHOGONAL CROSSHATCH FILL cRIGHT HALF BLACK cTOP HALF BLACK
  cUPPER LEFT DIAGONAL HALF BLACK eTO LOWER RIGHT FILL dRIGHT DIAGONAL HALF BLACK eTO LOWER LEFT
  FILL cVERTICAL FILL bYAADO bYAARU bYUAN aSQUARED ASTERISK bCJK UNIFIED IDEOGRAPH-4E00
  dIDEOGRAPH-4E09 dIDEOGRAPH-4E2D dIDEOGRAPH-4E8C dIDEOGRAPH-4EA4 dIDEOGRAPH-518D dIDEOGRAPH-521D
  dIDEOGRAPH-524D dIDEOGRAPH-5272 dIDEOGRAPH-53CC dIDEOGRAPH-53F3 dIDEOGRAPH-5408 dIDEOGRAPH-5439
  dIDEOGRAPH-55B6 dIDEOGRAPH-58F0 dIDEOGRAPH-591A dIDEOGRAPH-5929 dIDEOGRAPH-5B57 dIDEOGRAPH-5DE6
  dIDEOGRAPH-5F8C dIDEOGRAPH-624B dIDEOGRAPH-6253 dIDEOGRAPH-6295 dIDEOGRAPH-6307 dIDEOGRAPH-6355
  dIDEOGRAPH-6599 dIDEOGRAPH-65B0 dIDEOGRAPH-6620 dIDEOGRAPH-6708 dIDEOGRAPH-6709 dIDEOGRAPH-6E80
  dIDEOGRAPH-6F14 dIDEOGRAPH-7121 dIDEOGRAPH-751F dIDEOGRAPH-7533 dIDEOGRAPH-7981 dIDEOGRAPH-7A7A
  dIDEOGRAPH-7D42 dIDEOGRAPH-89E3 dIDEOGRAPH-8CA9 dIDEOGRAPH-8D70 dIDEOGRAPH-904A dIDEOGRAPH-914D
  bCL bCOOL bDOT OPERATOR bEIGHT K bFALLING DIAGONAL SLASH bFIVE POINT ONE bFOUR DOT PUNCTUATION cK
  bFREE bHC bHDR bHI-RES bHV bID bKATAKANA DE cKOKO cSA bKEY bLATIN CAPITAL LETTER A eB eC eD eE eF
  eG eH eI eJ eK eL eM eN eO eP eQ eR eS eT eU eV eW eX eY eZ cSMALL LETTER D bLOGICAL AND cOR
  bLOSSLESS bMINUS bMV bNEW bNG bOK bONE HUNDRED TWENTY P bPLUS bPPV bRISING DIAGONAL SLASH
  bSALTIRE bSD bSECOND SCREEN bSEVEN POINT ONE bSHV bSIXTY P bSMALL CIRCLE bSOS bSQUARE bSS bTHREE
  D bTIMES bTWENTY-TWO POINT TWO bTWO K bUHD bUP WITH EXCLAMATION MARK bVOD bVS bWC aSQUAT BLACK
  RIGHTWARDS ARROW aSQUID aSS2 aSS3 aSSA aST aSTADIUM aSTAFF OF AESCULAPIUS cHERMES aSTAMPED
  ENVELOPE aSTANDING PERSON aSTAR AND CRESCENT bEQUALS bOF DAVID bOPERATOR bWITH LEFT HALF BLACK
  cRIGHT HALF BLACK aSTART OF GUARDED AREA cHEADING cPROTECTED AREA cSELECTED AREA cSTRING cTEXT
  aSTATION aSTATUE OF LIBERTY aSTEAM LOCOMOTIVE aSTEAMING BOWL aSTENOGRAPHIC FULL STOP aSTETHOSCOPE
  aSTICK FIGURE cLEANING LEFT dRIGHT cWITH ARMS RAISED dDRESS aSTOCK CHART aSTOPWATCH aSTRAIGHT
  RULER aSTRAIGHTNESS aSTRAWBERRY aSTRESS OUTLINED WHITE STAR aSTRICTLY EQUIVALENT TO aSTRING
  TERMINATOR aSTS aSTUDIO MICROPHONE aSTUFFED FLATBREAD aSTUPA aSTX aSUB aSUBSCRIPT EIGHT bEQUALS
  SIGN bFIVE bFOUR bLEFT PARENTHESIS bMINUS bNINE bONE bPLUS SIGN bRIGHT PARENTHESIS bSEVEN bSIX
  bTHREE bTWO bZERO aSUBSET ABOVE RIGHTWARDS ARROW cSUBSET cSUPERSET bOF cABOVE ALMOST EQUAL TO
  dEQUALS SIGN dNOT EQUAL TO dTILDE OPERATOR cOR EQUAL TO fWITH DOT ABOVE cWITH NOT EQUAL TO bWITH
  DOT cMULTIPLICATION SIGN BELOW cPLUS SIGN BELOW aSUBSTITUTE aSUCCEEDS bABOVE ALMOST EQUAL TO
  cEQUALS SIGN cNOT ALMOST EQUAL TO dEQUAL TO cSINGLE-LINE EQUALS SIGN dNOT EQUAL TO bBUT NOT
  EQUIVALENT TO bOR EQUAL TO cEQUIVALENT TO bUNDER RELATION aSUMMATION BOTTOM bTOP bWITH INTEGRAL
  aSUN bBEHIND CLOUD bWITH FACE aSUNDANESE AVAGRAHA bCONSONANT SIGN PAMINGKAL dPANYAKRA dPANYIKU
  dPASANGAN MA eWA bDIGIT EIGHT cFIVE cFOUR cNINE cONE cSEVEN cSIX cTHREE cTWO cZERO bLETTER A cAE
  cBA cBHA cCA cDA cE cEU cFA cFINAL K dM cGA cHA cI cJA cKA cKHA cLA cLEU cMA cNA cNGA cNYA cO cPA
  cQA cRA cREU cSA cSYA cTA cU cVA cWA cXA cYA cZA bPUNCTUATION BINDU BA SATANGA dCAKRA dDA SATANGA
  dKA SATANGA dLEU SATANGA dPANGLONG dPURNAMA dSURYA bSIGN PAMAAEH cPANGLAYAR cPANGWISAD cPANYECEK
  cVIRAMA bVOWEL SIGN PAMEPET dPANAELAENG dPANEULEUNG dPANGHULU dPANOLONG dPANYUKU aSUNFLOWER
  aSUNRISE bOVER MOUNTAINS aSUNSET OVER BUILDINGS aSUPERHERO aSUPERSCRIPT EIGHT bEQUALS SIGN bFIVE
  bFOUR bLATIN SMALL LETTER I eN bLEFT PARENTHESIS bMINUS bNINE bONE bPLUS SIGN bRIGHT PARENTHESIS
  bSEVEN bSIX bTHREE bTWO bZERO aSUPERSET ABOVE LEFTWARDS ARROW cSUBSET cSUPERSET bBESIDE AND
  JOINED BY DASH WITH SUBSET cSUBSET bOF cABOVE ALMOST EQUAL TO dEQUALS SIGN dNOT EQUAL TO dTILDE
  OPERATOR cOR EQUAL TO fWITH DOT ABOVE cWITH NOT EQUAL TO bPRECEDING SOLIDUS bWITH DOT
  cMULTIPLICATION SIGN BELOW cPLUS SIGN BELOW aSUPERVILLAIN aSURFACE INTEGRAL aSURFER aSUSHI
  aSUSPENSION RAILWAY aSWAN aSWASH AMPERSAND ORNAMENT aSWIMMER aSWUNG DASH aSYLOTI NAGRI LETTER A
  dBHO dBO dCHO dCO dDDHO dDDO dDHO dDO dE dGHO dGO dHO dI dJHO dJO dKHO dKO dLO dMO dNO dO dPHO
  dPO dRO dRRO dSO dTHO dTO dTTHO dTTO dU cPOETRY MARK-1 dMARK-2 dMARK-3 dMARK-4 cSIGN ALTERNATE
  HASANTA dANUSVARA dDVISVARA dHASANTA cVOWEL SIGN A eE eI eOO eU aSYMBOL FOR ACKNOWLEDGE
  cBACKSPACE cBELL cCANCEL cCARRIAGE RETURN cDATA LINK ESCAPE cDELETE dFORM TWO cDEVICE CONTROL
  FOUR eONE eTHREE eTWO cEND OF MEDIUM eTEXT eTRANSMISSION fBLOCK cENQUIRY cESCAPE cFILE SEPARATOR
  cFORM FEED cGROUP SEPARATOR cHORIZONTAL TABULATION cLINE FEED cMARKS CHAPTER cNEGATIVE
  ACKNOWLEDGE cNEWLINE cNULL cRECORD SEPARATOR cSAMARITAN SOURCE cSHIFT IN dOUT cSPACE cSTART OF
  HEADING eTEXT cSUBSTITUTE dFORM TWO cSYNCHRONOUS IDLE cTYPE A ELECTRONICS cUNIT SEPARATOR
  cVERTICAL TABULATION aSYMMETRY aSYN aSYNAGOGUE aSYNCHRONOUS IDLE aSYRIAC ABBREVIATION MARK
  bBARREKH bCOLON SKEWED LEFT dRIGHT bCONTRACTION bDOTTED ZLAMA ANGULAR dHORIZONTAL bEND OF
  PARAGRAPH bESASA ABOVE cBELOW bFEMININE DOT bHARKLEAN ASTERISCUS cMETOBELUS cOBELUS bHBASA ABOVE
  cBELOW bHBASA-ESASA DOTTED bHORIZONTAL COLON bLETTER ALAPH cBETH cDALATH cDOTLESS DALATH RISH cE
  cFINAL SEMKATH cGAMAL dGARSHUNI cHE cHETH cKAPH cLAMADH cMALAYALAM BHA dJA dLLA dLLLA dNGA dNNA
  dNNNA dNYA dRA dSSA dTTA cMIM cNUN cPE cPERSIAN BHETH dDHALATH dGHAMAL cQAPH cREVERSED PE cRISH
  cSADHE cSEMKATH cSHIN cSOGDIAN FE dKHAPH dZHAIN cSUPERSCRIPT ALAPH cTAW cTETH dGARSHUNI cWAW
  cYUDH dHE cZAIN bMUSIC bOBLIQUE LINE ABOVE dBELOW bPTHAHA ABOVE cBELOW cDOTTED bQUSHSHAYA bRBASA
  ABOVE cBELOW bRUKKAKHA bRWAHA bSUBLINEAR COLON dSKEWED LEFT eRIGHT cFULL STOP bSUPRALINEAR COLON
  dSKEWED LEFT cFULL STOP bTHREE DOTS ABOVE dBELOW bTWO VERTICAL DOTS ABOVE eBELOW bZQAPHA ABOVE
  cBELOW cDOTTED aSYRINGE aT-REX aT-SHIRT aTAB aTABLE TENNIS PADDLE AND BALL aTACO aTAG AMPERSAND
  bAPOSTROPHE bASTERISK bCIRCUMFLEX ACCENT bCOLON bCOMMA bCOMMERCIAL AT bDIGIT EIGHT cFIVE cFOUR
  cNINE cONE cSEVEN cSIX cTHREE cTWO cZERO bDOLLAR SIGN bEQUALS SIGN bEXCLAMATION MARK bFULL STOP
  bGRAVE ACCENT bGREATER-THAN SIGN bHYPHEN-MINUS bLATIN CAPITAL LETTER A eB eC eD eE eF eG eH eI eJ
  eK eL eM eN eO eP eQ eR eS eT eU eV eW eX eY eZ cSMALL LETTER A eB eC eD eE eF eG eH eI eJ eK eL
  eM eN eO eP eQ eR eS eT eU eV eW eX eY eZ bLEFT CURLY BRACKET cPARENTHESIS cSQUARE BRACKET
  bLESS-THAN SIGN bLOW LINE bNUMBER SIGN bPERCENT SIGN bPLUS SIGN bQUESTION MARK bQUOTATION MARK
  bREVERSE SOLIDUS bRIGHT CURLY BRACKET cPARENTHESIS cSQUARE BRACKET bSEMICOLON bSOLIDUS bSPACE
  bTILDE bVERTICAL LINE aTAGALOG LETTER A cARCHAIC RA cBA cDA cGA cHA cI cKA cLA cMA cNA cNGA cPA
  cRA cSA cTA cU cWA cYA bSIGN PAMUDPOD cVIRAMA bVOWEL SIGN I dU aTAGBANWA LETTER A cBA cDA cGA cI
  cKA cLA cMA cNA cNGA cPA cSA cTA cU cWA cYA bVOWEL SIGN I dU aTAI LE LETTER A dAI dAUE dE dEE dEH
  dFA dHA dI dKA dKHA dLA dMA dNA dNGA dO dOO dPA dPHA dQA dSA dTA dTHA dTONE-2 dTONE-3 dTONE-4
  dTONE-5 dTONE-6 dTSA dTSHA dU dUE dVA dXA dYA bTHAM COMBINING CRYPTOGRAMMIC DOT cCONSONANT SIGN
  BA eFINAL NGA eHIGH RATHA OR LOW PA eLA TANG LAI eLOW PA eMA eMEDIAL LA fRA eSA cHORA DIGIT EIGHT
  eFIVE eFOUR eNINE eONE eSEVEN eSIX eTHREE eTWO eZERO cLETTER A dBA dDA dEE dGREAT SA dHIGH CA
  eCHA eFA eHA eKA eKHA eKXA ePA ePHA eRATHA eSA eSHA eSSA eTA eTHA eYA dI dII dLA dLAE dLLA dLOW
  CA eCHA eFA eHA eKA eKHA eKXA ePA ePHA eRATHA eSA eTA eTHA eYA dLUE dMA dNA dNGA dNYA dOO dRA
  dRANA dRATA dRUE dU dUU dWA cSIGN CAANG dDOKMAI dHANG dHOY dKAAN dKAANKUU dKEOW dKHUEN TONE-3
  eTONE-4 eTONE-5 dKHUEN-LUE KARAN dMAI KANG fLAI eSAM eYAMOK dRA HAAM dREVERSED ROTATED RANA
  dSAKOT dSATKAAN dSATKAANKUU dSAWAN dTONE-1 dTONE-2 dWIANG dWIANGWAAK cTHAM DIGIT EIGHT eFIVE
  eFOUR eNINE eONE eSEVEN eSIX eTHREE eTWO eZERO cVOWEL SIGN A eAA eAE eAI eE eI eII eMAI SAT eO
  eOA ABOVE fBELOW eOO eOY eTALL AA eTHAM AI eU eUE eUU eUUE bVIET LETTER HIGH BO eCHO eCO eDO eFO
  eGO eHO eKHHO eKHO eKO eLO eMO eNGO eNO eNYO eO ePHO ePO eRO eSO eTHO eTO eVO eYO dLOW BO eCHO
  eCO eDO eFO eGO eHO eKHHO eKHO eKO eLO eMO eNGO eNO eNYO eO ePHO ePO eRO eSO eTHO eTO eVO eYO
  cMAI KANG dKHIT cSYMBOL HO HOI dKOI KOI dKON dNUENG dSAM cTONE MAI EK eNUENG eSONG eTHO cVOWEL AA
  dAM dAN dAUE dAY dE dI dIA dO dU dUA dUE dUEA aTAKEOUT BOX aTAKRI ABBREVIATION SIGN bDIGIT EIGHT
  cFIVE cFOUR cNINE cONE cSEVEN cSIX cTHREE cTWO cZERO bLETTER A cAA cAI cARCHAIC KHA cAU cBA cBHA
  cCA cCHA cDA cDDA cDDHA cDHA cE cGA cGHA cHA cI cII cJA cJHA cKA cKHA cLA cMA cNA cNGA cNNA cNYA
  cO cPA cPHA cRA cRRA cSA cSHA cTA cTHA cTTA cTTHA cU cUU cVA cYA bSIGN ANUSVARA cNUKTA cVIRAMA
  cVISARGA bVOWEL SIGN AA dAI dAU dE dI dII dO dU dUU aTALLY MARK FIVE cONE aTAMALE aTAMIL AND ODD
  SIGN bAS ABOVE SIGN bAU LENGTH MARK bCREDIT SIGN bCURRENT SIGN bDAY SIGN bDEBIT SIGN bDIGIT EIGHT
  cFIVE cFOUR cNINE cONE cSEVEN cSIX cTHREE cTWO cZERO bDRY CULTIVATION SIGN bFRACTION DOWNSCALING
  FACTOR KIIZH cONE EIGHTH dEIGHTIETH dFIFTH dFORTIETH dHALF-1 dHALF-2 dONE-HUNDRED-AND-SIXTIETH
  dQUARTER dSIXTEENTH-1 dSIXTEENTH-2 dSIXTY-FOURTH dTENTH dTHIRTY-SECOND
  dTHREE-HUNDRED-AND-TWENTIETH dTWENTIETH cTHREE EIGHTIETHS dQUARTERS dSIXTEENTHS dSIXTY-FOURTHS
  dTWENTIETHS bIN POSSESSION SIGN bLAND SIGN bLETTER A cAA cAI cAU cCA cE cEE cHA cI cII cJA cKA
  cLA cLLA cLLLA cMA cNA cNGA cNNA cNNNA cNYA cO cOO cPA cRA cRRA cSA cSHA cSSA cTA cTTA cU cUU cVA
  cYA bMONTH SIGN bNUMBER ONE HUNDRED dTHOUSAND cSIGN cTEN bOM bPUNCTUATION END OF TEXT bRUPEE SIGN
  bSALT PAN SIGN bSIGN AAZHAAKKU cANUSVARA cCEVITU cKAACU cKURUNI cKUZHI cMUKKURUNI cMUTHALIYA
  cMUUVUZHAKKU cNEL cPAARAM cPANAM cPATHAKKU cPON cUZHAKKU cVAKAIYARAA cVARAAKAN cVELI cVIRAMA
  cVISARGA bSPENT SIGN bSTARTING FROM SIGN bTOTAL SIGN bTRADITIONAL CREDIT SIGN cNUMBER SIGN bVOWEL
  SIGN AA dAI dAU dE dEE dI dII dO dOO dU dUU bWET CULTIVATION SIGN bYEAR SIGN aTANABATA TREE
  aTANGERINE aTANGSA DIGIT EIGHT cFIVE cFOUR cNINE cONE cSEVEN cSIX cTHREE cTWO cZERO bLETTER AC
  cAQ cAWC cAWQ cAWX cAWZ cAX cAZ cBA cCA cCHA cDA cDHA cEC cEQ cEX cEZ cFA cFINAL NG cGA cGHA cHA
  cHTA cHTTA cIC cIQ cIX cIZ cKA cKHA cLA cLONG UEX cMA cMC cMQ cMX cMZ cNA cNGA cNHA cNYA cOC cOQ
  cOX cOZ cPA cPHA cRA cSA cSHA cSHORT AWX dUEZ cTA cTHA cTSA cUC cUEC cUEQ cUEX cUEZ cUIC cUIQ
  cUIUC cUIUQ cUIUX cUIUZ cUIX cUIZ cUQ cUX cUZ cVC cVQ cVX cVZ cWA cXA cYA cZA aTANGUT
  COMPONENT-001 bCOMPONENT-002 bCOMPONENT-003 bCOMPONENT-004 bCOMPONENT-005 bCOMPONENT-006
  bCOMPONENT-007 bCOMPONENT-008 bCOMPONENT-009 bCOMPONENT-010 bCOMPONENT-011 bCOMPONENT-012
  bCOMPONENT-013 bCOMPONENT-014 bCOMPONENT-015 bCOMPONENT-016 bCOMPONENT-017 bCOMPONENT-018
  bCOMPONENT-019 bCOMPONENT-020 bCOMPONENT-021 bCOMPONENT-022 bCOMPONENT-023 bCOMPONENT-024
  bCOMPONENT-025 bCOMPONENT-026 bCOMPONENT-027 bCOMPONENT-028 bCOMPONENT-029 bCOMPONENT-030
  bCOMPONENT-031 bCOMPONENT-032 bCOMPONENT-033 bCOMPONENT-034 bCOMPONENT-035 bCOMPONENT-036
  bCOMPONENT-037 bCOMPONENT-038 bCOMPONENT-039 bCOMPONENT-040 bCOMPONENT-041 bCOMPONENT-042
  bCOMPONENT-043 bCOMPONENT-044 bCOMPONENT-045 bCOMPONENT-046 bCOMPONENT-047 bCOMPONENT-048
  bCOMPONENT-049 bCOMPONENT-050 bCOMPONENT-051 bCOMPONENT-052 bCOMPONENT-053 bCOMPONENT-054
  bCOMPONENT-055 bCOMPONENT-056 bCOMPONENT-057 bCOMPONENT-058 bCOMPONENT-059 bCOMPONENT-060
  bCOMPONENT-061 bCOMPONENT-062 bCOMPONENT-063 bCOMPONENT-064 bCOMPONENT-065 bCOMPONENT-066
  bCOMPONENT-067 bCOMPONENT-068 bCOMPONENT-069 bCOMPONENT-070 bCOMPONENT-071 bCOMPONENT-072
  bCOMPONENT-073 bCOMPONENT-074 bCOMPONENT-075 bCOMPONENT-076 bCOMPONENT-077 bCOMPONENT-078
  bCOMPONENT-079 bCOMPONENT-080 bCOMPONENT-081 bCOMPONENT-082 bCOMPONENT-083 bCOMPONENT-084
  bCOMPONENT-085 bCOMPONENT-086 bCOMPONENT-087 bCOMPONENT-088 bCOMPONENT-089 bCOMPONENT-090
  bCOMPONENT-091 bCOMPONENT-092 bCOMPONENT-093 bCOMPONENT-094 bCOMPONENT-095 bCOMPONENT-096
  bCOMPONENT-097 bCOMPONENT-098 bCOMPONENT-099 bCOMPONENT-100 bCOMPONENT-101 bCOMPONENT-102
  bCOMPONENT-103 bCOMPONENT-104 bCOMPONENT-105 bCOMPONENT-106 bCOMPONENT-107 bCOMPONENT-108
  bCOMPONENT-109 bCOMPONENT-110 bCOMPONENT-111 bCOMPONENT-112 bCOMPONENT-113 bCOMPONENT-114
  bCOMPONENT-115 bCOMPONENT-116 bCOMPONENT-117 bCOMPONENT-118 bCOMPONENT-119 bCOMPONENT-120
  bCOMPONENT-121 bCOMPONENT-122 bCOMPONENT-123 bCOMPONENT-124 bCOMPONENT-125 bCOMPONENT-126
  bCOMPONENT-127 bCOMPONENT-128 bCOMPONENT-129 bCOMPONENT-130 bCOMPONENT-131 bCOMPONENT-132
  bCOMPONENT-133 bCOMPONENT-134 bCOMPONENT-135 bCOMPONENT-136 bCOMPONENT-137 bCOMPONENT-138
  bCOMPONENT-139 bCOMPONENT-140 bCOMPONENT-141 bCOMPONENT-142 bCOMPONENT-143 bCOMPONENT-144
  bCOMPONENT-145 bCOMPONENT-146 bCOMPONENT-147 bCOMPONENT-148 bCOMPONENT-149 bCOMPONENT-150
  bCOMPONENT-151 bCOMPONENT-152 bCOMPONENT-153 bCOMPONENT-154 bCOMPONENT-155 bCOMPONENT-156
  bCOMPONENT-157 bCOMPONENT-158 bCOMPONENT-159 bCOMPONENT-160 bCOMPONENT-161 bCOMPONENT-162
  bCOMPONENT-163 bCOMPONENT-164 bCOMPONENT-165 bCOMPONENT-166 bCOMPONENT-167 bCOMPONENT-168
  bCOMPONENT-169 bCOMPONENT-170 bCOMPONENT-171 bCOMPONENT-172 bCOMPONENT-173 bCOMPONENT-174
  bCOMPONENT-175 bCOMPONENT-176 bCOMPONENT-177 bCOMPONENT-178 bCOMPONENT-179 bCOMPONENT-180
  bCOMPONENT-181 bCOMPONENT-182 bCOMPONENT-183 bCOMPONENT-184 bCOMPONENT-185 bCOMPONENT-186
  bCOMPONENT-187 bCOMPONENT-188 bCOMPONENT-189 bCOMPONENT-190 bCOMPONENT-191 bCOMPONENT-192
  bCOMPONENT-193 bCOMPONENT-194 bCOMPONENT-195 bCOMPONENT-196 bCOMPONENT-197 bCOMPONENT-198
  bCOMPONENT-199 bCOMPONENT-200 bCOMPONENT-201 bCOMPONENT-202 bCOMPONENT-203 bCOMPONENT-204
  bCOMPONENT-205 bCOMPONENT-206 bCOMPONENT-207 bCOMPONENT-208 bCOMPONENT-209 bCOMPONENT-210
  bCOMPONENT-211 bCOMPONENT-212 bCOMPONENT-213 bCOMPONENT-214 bCOMPONENT-215 bCOMPONENT-216
  bCOMPONENT-217 bCOMPONENT-218 bCOMPONENT-219 bCOMPONENT-220 bCOMPONENT-221 bCOMPONENT-222
  bCOMPONENT-223 bCOMPONENT-224 bCOMPONENT-225 bCOMPONENT-226 bCOMPONENT-227 bCOMPONENT-228
  bCOMPONENT-229 bCOMPONENT-230 bCOMPONENT-231 bCOMPONENT-232 bCOMPONENT-233 bCOMPONENT-234
  bCOMPONENT-235 bCOMPONENT-236 bCOMPONENT-237 bCOMPONENT-238 bCOMPONENT-239 bCOMPONENT-240
  bCOMPONENT-241 bCOMPONENT-242 bCOMPONENT-243 bCOMPONENT-244 bCOMPONENT-245 bCOMPONENT-246
  bCOMPONENT-247 bCOMPONENT-248 bCOMPONENT-249 bCOMPONENT-250 bCOMPONENT-251 bCOMPONENT-252
  bCOMPONENT-253 bCOMPONENT-254 bCOMPONENT-255 bCOMPONENT-256 bCOMPONENT-257 bCOMPONENT-258
  bCOMPONENT-259 bCOMPONENT-260 bCOMPONENT-261 bCOMPONENT-262 bCOMPONENT-263 bCOMPONENT-264
  bCOMPONENT-265 bCOMPONENT-266 bCOMPONENT-267 bCOMPONENT-268 bCOMPONENT-269 bCOMPONENT-270
  bCOMPONENT-271 bCOMPONENT-272 bCOMPONENT-273 bCOMPONENT-274 bCOMPONENT-275 bCOMPONENT-276
  bCOMPONENT-277 bCOMPONENT-278 bCOMPONENT-279 bCOMPONENT-280 bCOMPONENT-281 bCOMPONENT-282
  bCOMPONENT-283 bCOMPONENT-284 bCOMPONENT-285 bCOMPONENT-286 bCOMPONENT-287 bCOMPONENT-288
  bCOMPONENT-289 bCOMPONENT-290 bCOMPONENT-291 bCOMPONENT-292 bCOMPONENT-293 bCOMPONENT-294
  bCOMPONENT-295 bCOMPONENT-296 bCOMPONENT-297 bCOMPONENT-298 bCOMPONENT-299 bCOMPONENT-300
  bCOMPONENT-301 bCOMPONENT-302 bCOMPONENT-303 bCOMPONENT-304 bCOMPONENT-305 bCOMPONENT-306
  bCOMPONENT-307 bCOMPONENT-308 bCOMPONENT-309 bCOMPONENT-310 bCOMPONENT-311 bCOMPONENT-312
  bCOMPONENT-313 bCOMPONENT-314 bCOMPONENT-315 bCOMPONENT-316 bCOMPONENT-317 bCOMPONENT-318
  bCOMPONENT-319 bCOMPONENT-320 bCOMPONENT-321 bCOMPONENT-322 bCOMPONENT-323 bCOMPONENT-324
  bCOMPONENT-325 bCOMPONENT-326 bCOMPONENT-327 bCOMPONENT-328 bCOMPONENT-329 bCOMPONENT-330
  bCOMPONENT-331 bCOMPONENT-332 bCOMPONENT-333 bCOMPONENT-334 bCOMPONENT-335 bCOMPONENT-336
  bCOMPONENT-337 bCOMPONENT-338 bCOMPONENT-339 bCOMPONENT-340 bCOMPONENT-341 bCOMPONENT-342
  bCOMPONENT-343 bCOMPONENT-344 bCOMPONENT-345 bCOMPONENT-346 bCOMPONENT-347 bCOMPONENT-348
  bCOMPONENT-349 bCOMPONENT-350 bCOMPONENT-351 bCOMPONENT-352 bCOMPONENT-353 bCOMPONENT-354
  bCOMPONENT-355 bCOMPONENT-356 bCOMPONENT-357 bCOMPONENT-358 bCOMPONENT-359 bCOMPONENT-360
  bCOMPONENT-361 bCOMPONENT-362 bCOMPONENT-363 bCOMPONENT-364 bCOMPONENT-365 bCOMPONENT-366
  bCOMPONENT-367 bCOMPONENT-368 bCOMPONENT-369 bCOMPONENT-370 bCOMPONENT-371 bCOMPONENT-372
  bCOMPONENT-373 bCOMPONENT-374 bCOMPONENT-375 bCOMPONENT-376 bCOMPONENT-377 bCOMPONENT-378
  bCOMPONENT-379 bCOMPONENT-380 bCOMPONENT-381 bCOMPONENT-382 bCOMPONENT-383 bCOMPONENT-384
  bCOMPONENT-385 bCOMPONENT-386 bCOMPONENT-387 bCOMPONENT-388 bCOMPONENT-389 bCOMPONENT-390
  bCOMPONENT-391 bCOMPONENT-392 bCOMPONENT-393 bCOMPONENT-394 bCOMPONENT-395 bCOMPONENT-396
  bCOMPONENT-397 bCOMPONENT-398 bCOMPONENT-399 bCOMPONENT-400 bCOMPONENT-401 bCOMPONENT-402
  bCOMPONENT-403 bCOMPONENT-404 bCOMPONENT-405 bCOMPONENT-406 bCOMPONENT-407 bCOMPONENT-408
  bCOMPONENT-409 bCOMPONENT-410 bCOMPONENT-411 bCOMPONENT-412 bCOMPONENT-413 bCOMPONENT-414
  bCOMPONENT-415 bCOMPONENT-416 bCOMPONENT-417 bCOMPONENT-418 bCOMPONENT-419 bCOMPONENT-420
  bCOMPONENT-421 bCOMPONENT-422 bCOMPONENT-423 bCOMPONENT-424 bCOMPONENT-425 bCOMPONENT-426
  bCOMPONENT-427 bCOMPONENT-428 bCOMPONENT-429 bCOMPONENT-430 bCOMPONENT-431 bCOMPONENT-432
  bCOMPONENT-433 bCOMPONENT-434 bCOMPONENT-435 bCOMPONENT-436 bCOMPONENT-437 bCOMPONENT-438
  bCOMPONENT-439 bCOMPONENT-440 bCOMPONENT-441 bCOMPONENT-442 bCOMPONENT-443 bCOMPONENT-444
  bCOMPONENT-445 bCOMPONENT-446 bCOMPONENT-447 bCOMPONENT-448 bCOMPONENT-449 bCOMPONENT-450
  bCOMPONENT-451 bCOMPONENT-452 bCOMPONENT-453 bCOMPONENT-454 bCOMPONENT-455 bCOMPONENT-456
  bCOMPONENT-457 bCOMPONENT-458 bCOMPONENT-459 bCOMPONENT-460 bCOMPONENT-461 bCOMPONENT-462
  bCOMPONENT-463 bCOMPONENT-464 bCOMPONENT-465 bCOMPONENT-466 bCOMPONENT-467 bCOMPONENT-468
  bCOMPONENT-469 bCOMPONENT-470 bCOMPONENT-471 bCOMPONENT-472 bCOMPONENT-473 bCOMPONENT-474
  bCOMPONENT-475 bCOMPONENT-476 bCOMPONENT-477 bCOMPONENT-478 bCOMPONENT-479 bCOMPONENT-480
  bCOMPONENT-481 bCOMPONENT-482 bCOMPONENT-483 bCOMPONENT-484 bCOMPONENT-485 bCOMPONENT-486
  bCOMPONENT-487 bCOMPONENT-488 bCOMPONENT-489 bCOMPONENT-490 bCOMPONENT-491 bCOMPONENT-492
  bCOMPONENT-493 bCOMPONENT-494 bCOMPONENT-495 bCOMPONENT-496 bCOMPONENT-497 bCOMPONENT-498
  bCOMPONENT-499 bCOMPONENT-500 bCOMPONENT-501 bCOMPONENT-502 bCOMPONENT-503 bCOMPONENT-504
  bCOMPONENT-505 bCOMPONENT-506 bCOMPONENT-507 bCOMPONENT-508 bCOMPONENT-509 bCOMPONENT-510
  bCOMPONENT-511 bCOMPONENT-512 bCOMPONENT-513 bCOMPONENT-514 bCOMPONENT-515 bCOMPONENT-516
  bCOMPONENT-517 bCOMPONENT-518 bCOMPONENT-519 bCOMPONENT-520 bCOMPONENT-521 bCOMPONENT-522
  bCOMPONENT-523 bCOMPONENT-524 bCOMPONENT-525 bCOMPONENT-526 bCOMPONENT-527 bCOMPONENT-528
  bCOMPONENT-529 bCOMPONENT-530 bCOMPONENT-531 bCOMPONENT-532 bCOMPONENT-533 bCOMPONENT-534
  bCOMPONENT-535 bCOMPONENT-536 bCOMPONENT-537 bCOMPONENT-538 bCOMPONENT-539 bCOMPONENT-540
  bCOMPONENT-541 bCOMPONENT-542 bCOMPONENT-543 bCOMPONENT-544 bCOMPONENT-545 bCOMPONENT-546
  bCOMPONENT-547 bCOMPONENT-548 bCOMPONENT-549 bCOMPONENT-550 bCOMPONENT-551 bCOMPONENT-552
  bCOMPONENT-553 bCOMPONENT-554 bCOMPONENT-555 bCOMPONENT-556 bCOMPONENT-557 bCOMPONENT-558
  bCOMPONENT-559 bCOMPONENT-560 bCOMPONENT-561 bCOMPONENT-562 bCOMPONENT-563 bCOMPONENT-564
  bCOMPONENT-565 bCOMPONENT-566 bCOMPONENT-567 bCOMPONENT-568 bCOMPONENT-569 bCOMPONENT-570
  bCOMPONENT-571 bCOMPONENT-572 bCOMPONENT-573 bCOMPONENT-574 bCOMPONENT-575 bCOMPONENT-576
  bCOMPONENT-577 bCOMPONENT-578 bCOMPONENT-579 bCOMPONENT-580 bCOMPONENT-581 bCOMPONENT-582
  bCOMPONENT-583 bCOMPONENT-584 bCOMPONENT-585 bCOMPONENT-586 bCOMPONENT-587 bCOMPONENT-588
  bCOMPONENT-589 bCOMPONENT-590 bCOMPONENT-591 bCOMPONENT-592 bCOMPONENT-593 bCOMPONENT-594
  bCOMPONENT-595 bCOMPONENT-596 bCOMPONENT-597 bCOMPONENT-598 bCOMPONENT-599 bCOMPONENT-600
  bCOMPONENT-601 bCOMPONENT-602 bCOMPONENT-603 bCOMPONENT-604 bCOMPONENT-605 bCOMPONENT-606
  bCOMPONENT-607 bCOMPONENT-608 bCOMPONENT-609 bCOMPONENT-610 bCOMPONENT-611 bCOMPONENT-612
  bCOMPONENT-613 bCOMPONENT-614 bCOMPONENT-615 bCOMPONENT-616 bCOMPONENT-617 bCOMPONENT-618
  bCOMPONENT-619 bCOMPONENT-620 bCOMPONENT-621 bCOMPONENT-622 bCOMPONENT-623 bCOMPONENT-624
  bCOMPONENT-625 bCOMPONENT-626 bCOMPONENT-627 bCOMPONENT-628 bCOMPONENT-629 bCOMPONENT-630
  bCOMPONENT-631 bCOMPONENT-632 bCOMPONENT-633 bCOMPONENT-634 bCOMPONENT-635 bCOMPONENT-636
  bCOMPONENT-637 bCOMPONENT-638 bCOMPONENT-639 bCOMPONENT-640 bCOMPONENT-641 bCOMPONENT-642
  bCOMPONENT-643 bCOMPONENT-644 bCOMPONENT-645 bCOMPONENT-646 bCOMPONENT-647 bCOMPONENT-648
  bCOMPONENT-649 bCOMPONENT-650 bCOMPONENT-651 bCOMPONENT-652 bCOMPONENT-653 bCOMPONENT-654
  bCOMPONENT-655 bCOMPONENT-656 bCOMPONENT-657 bCOMPONENT-658 bCOMPONENT-659 bCOMPONENT-660
  bCOMPONENT-661 bCOMPONENT-662 bCOMPONENT-663 bCOMPONENT-664 bCOMPONENT-665 bCOMPONENT-666
  bCOMPONENT-667 bCOMPONENT-668 bCOMPONENT-669 bCOMPONENT-670 bCOMPONENT-671 bCOMPONENT-672
  bCOMPONENT-673 bCOMPONENT-674 bCOMPONENT-675 bCOMPONENT-676 bCOMPONENT-677 bCOMPONENT-678
  bCOMPONENT-679 bCOMPONENT-680 bCOMPONENT-681 bCOMPONENT-682 bCOMPONENT-683 bCOMPONENT-684
  bCOMPONENT-685 bCOMPONENT-686 bCOMPONENT-687 bCOMPONENT-688 bCOMPONENT-689 bCOMPONENT-690
  bCOMPONENT-691 bCOMPONENT-692 bCOMPONENT-693 bCOMPONENT-694 bCOMPONENT-695 bCOMPONENT-696
  bCOMPONENT-697 bCOMPONENT-698 bCOMPONENT-699 bCOMPONENT-700 bCOMPONENT-701 bCOMPONENT-702
  bCOMPONENT-703 bCOMPONENT-704 bCOMPONENT-705 bCOMPONENT-706 bCOMPONENT-707 bCOMPONENT-708
  bCOMPONENT-709 bCOMPONENT-710 bCOMPONENT-711 bCOMPONENT-712 bCOMPONENT-713 bCOMPONENT-714
  bCOMPONENT-715 bCOMPONENT-716 bCOMPONENT-717 bCOMPONENT-718 bCOMPONENT-719 bCOMPONENT-720
  bCOMPONENT-721 bCOMPONENT-722 bCOMPONENT-723 bCOMPONENT-724 bCOMPONENT-725 bCOMPONENT-726
  bCOMPONENT-727 bCOMPONENT-728 bCOMPONENT-729 bCOMPONENT-730 bCOMPONENT-731 bCOMPONENT-732
  bCOMPONENT-733 bCOMPONENT-734 bCOMPONENT-735 bCOMPONENT-736 bCOMPONENT-737 bCOMPONENT-738
  bCOMPONENT-739 bCOMPONENT-740 bCOMPONENT-741 bCOMPONENT-742 bCOMPONENT-743 bCOMPONENT-744
  bCOMPONENT-745 bCOMPONENT-746 bCOMPONENT-747 bCOMPONENT-748 bCOMPONENT-749 bCOMPONENT-750
  bCOMPONENT-751 bCOMPONENT-752 bCOMPONENT-753 bCOMPONENT-754 bCOMPONENT-755 bCOMPONENT-756
  bCOMPONENT-757 bCOMPONENT-758 bCOMPONENT-759 bCOMPONENT-760 bCOMPONENT-761 bCOMPONENT-762
  bCOMPONENT-763 bCOMPONENT-764 bCOMPONENT-765 bCOMPONENT-766 bCOMPONENT-767 bCOMPONENT-768
  bITERATION MARK aTAPE CARTRIDGE bDRIVE aTAURUS aTAXI aTEACUP WITHOUT HANDLE aTEAPOT aTEAR-OFF
  CALENDAR aTEARDROP-BARBED RIGHTWARDS ARROW aTEARDROP-SPOKED ASTERISK aTEDDY BEAR aTELEPHONE
  LOCATION SIGN bON TOP OF MODEM bRECEIVER cWITH PAGE bRECORDER bSIGN aTELESCOPE aTELEVISION
  aTELUGU AI LENGTH MARK bDIGIT EIGHT cFIVE cFOUR cNINE cONE cSEVEN cSIX cTHREE cTWO cZERO
  bFRACTION DIGIT ONE FOR EVEN POWERS OF FOUR fODD POWERS OF FOUR dTHREE FOR EVEN POWERS OF FOUR
  fODD POWERS OF FOUR dTWO FOR EVEN POWERS OF FOUR fODD POWERS OF FOUR dZERO FOR ODD POWERS OF FOUR
  bLENGTH MARK bLETTER A cAA cAI cAU cBA cBHA cCA cCHA cDA cDDA cDDHA cDHA cDZA cE cEE cGA cGHA cHA
  cI cII cJA cJHA cKA cKHA cLA cLLA cLLLA cMA cNA cNAKAARA POLLU cNGA cNNA cNYA cO cOO cPA cPHA cRA
  cRRA cRRRA cSA cSHA cSSA cTA cTHA cTSA cTTA cTTHA cU cUU cVA cVOCALIC L dLL dR dRR cYA bSIGN
  ANUSVARA cAVAGRAHA cCANDRABINDU cCOMBINING ANUSVARA ABOVE dCANDRABINDU ABOVE cNUKTA cSIDDHAM
  cTUUMU cVIRAMA cVISARGA bVOWEL SIGN AA dAI dAU dE dEE dI dII dO dOO dU dUU dVOCALIC L eLL eR eRR
  aTENGE SIGN aTENNIS RACQUET AND BALL aTENT aTEST TUBE aTETRAGRAM FOR ACCUMULATION cADVANCE
  cAGGRAVATION cASCENT cBARRIER cBOLD RESOLUTION cBRANCHING OUT cCENTRE cCHANGE cCLOSED MOUTH
  cCLOSENESS cCLOSURE cCOMPLETION cCOMPLIANCE cCONSTANCY cCONTACT cCONTENTION cCONTRARIETY
  cDARKENING cDECISIVENESS cDEFECTIVENESS OR DISTORTION cDEPARTURE cDIFFICULTIES cDIMINISHMENT
  cDIMMING cDIVERGENCE cDOUBT cDUTIES cEASE cEMBELLISHMENT cENCOUNTERS cENDEAVOUR cENLARGEMENT
  cETERNITY cEXHAUSTION cFAILURE cFLIGHT cFOLLOWING cFOSTERING cFULL CIRCLE cFULLNESS cGATHERING
  dIN cGOING TO MEET cGREATNESS cGUARDEDNESS cHARDNESS cHOLDING BACK cINCREASE cINNER cJOY cKEEPING
  SMALL cKINSHIP cLABOURING cLAW OR MODEL cLEGION cMASSING cMEASURE cMIRED cON THE VERGE
  cOPPOSITION cPACKING cPATTERN cPENETRATION cPURITY cREACH cRELEASE cRESIDENCE cRESISTANCE
  cRESPONSE cRITUAL cSEVERANCE cSINKING cSTOPPAGE cSTOVE cSTRENGTH cUNITY cVASTNESS OR WASTING
  cWAITING cWATCH cYOUTHFULNESS aTHAANA AABAAFILI bABAFILI bEBEFILI bEEBEEFILI bEYBEYFILI bIBIFILI
  bLETTER AINU cALIFU cBAA cCHAVIYANI cDAADHU cDAVIYANI cDHAALU cFAAFU cGAAFU cGHAINU cGNAVIYANI
  cHAA cHHAA cJAVIYANI cKAAFU cKHAA cLAAMU cLHAVIYANI cMEEMU cNAA cNOONU cPAVIYANI cQAAFU cRAA
  cSAADHU cSEENU cSHAVIYANI cSHEENU cTAVIYANI cTHAA cTHAALU cTO cTTAA cVAAVU cWAAVU cYAA cZAA
  cZAVIYANI cZO bOABOAFILI bOBOFILI bOOBOOFILI bSUKUN bUBUFILI aTHAI CHARACTER ANGKHANKHU cBO
  BAIMAI cCHO CHAN dCHANG dCHING dCHOE cDO CHADA dDEK cFO FA dFAN cFONGMAN cHO HIP dNOKHUK cKHO
  KHAI dKHON dKHUAT dKHWAI dRAKHANG cKHOMUT cKO KAI cLAKKHANGYAO cLO CHULA dLING cLU cMAI CHATTAWA
  dEK dHAN-AKAT dTHO dTRI cMAITAIKHU cMAIYAMOK cMO MA cNGO NGU cNIKHAHIT cNO NEN dNU cO ANG
  cPAIYANNOI cPHINTHU cPHO PHAN dPHUNG dSAMPHAO cPO PLA cRO RUA cRU cSARA A dAA dAE dAI MAIMALAI
  eMAIMUAN dAM dE dI dII dO dU dUE dUEE dUU cSO RUSI dSALA dSO dSUA cTHANTHAKHAT cTHO NANGMONTHO
  dPHUTHAO dTHAHAN dTHAN dTHONG dTHUNG cTO PATAK dTAO cWO WAEN cYAMAKKAN cYO YAK dYING bCURRENCY
  SYMBOL BAHT bDIGIT EIGHT cFIVE cFOUR cNINE cONE cSEVEN cSIX cTHREE cTWO cZERO aTHERE DOES NOT
  EXIST bEXISTS aTHEREFORE aTHERMODYNAMIC aTHERMOMETER aTHIN GREEK CROSS bSALTIRE bSPACE aTHINKING
  FACE aTHIRD PLACE MEDAL aTHONG SANDAL aTHOUGHT BALLOON aTHREE BUTTON MOUSE bCONSECUTIVE EQUALS
  SIGNS bDIMENSIONAL ANGLE bDOT PUNCTUATION bLEFTWARDS ARROWS bLINES CONVERGING LEFT dRIGHT
  bNETWORKED COMPUTERS bPOINTED BLACK STAR bRAYS ABOVE cBELOW cLEFT cRIGHT bRIGHTWARDS ARROWS
  bSPEECH BUBBLES aTHREE-D BOTTOM-LIGHTED RIGHTWARDS ARROWHEAD bLEFT-LIGHTED DOWNWARDS EQUILATERAL
  ARROWHEAD bRIGHT-LIGHTED UPWARDS EQUILATERAL ARROWHEAD bTOP-LIGHTED LEFTWARDS EQUILATERAL
  ARROWHEAD cRIGHTWARDS ARROWHEAD dEQUILATERAL ARROWHEAD aTHREE-EM DASH aTHREE-PER-EM SPACE aTHUMBS
  DOWN SIGN bUP SIGN aTHUNDER CLOUD AND RAIN aTHUNDERSTORM aTIBETAN ASTROLOGICAL SIGN -KHYUD PA
  dSDONG TSHUGS dSGRA GCAN -CHAR RTAGS bCANTILLATION SIGN CANG TE-U dHEAVY BEAT dLIGHT BEAT dSBUB
  -CHAL bDIGIT EIGHT cFIVE cFOUR cHALF EIGHT dFIVE dFOUR dNINE dONE dSEVEN dSIX dTHREE dTWO dZERO
  cNINE cONE cSEVEN cSIX cTHREE cTWO cZERO bKU RU KHA eBZHI MIG CAN bLETTER -A cA cBA cBHA cCA cCHA
  cDA cDDA cDDHA cDHA cDZA cDZHA cFIXED-FORM RA cGA cGHA cHA cJA cKA cKHA cKKA cKSSA cLA cMA cNA
  cNGA cNNA cNYA cPA cPHA cRA cRRA cSA cSHA cSSA cTA cTHA cTSA cTSHA cTTA cTTHA cWA cYA cZA cZHA
  bLOGOTYPE SIGN CHAD RTAGS dLHAG RTAGS bMARK ANG KHANG GYAS eGYON cBKA- SHOG GI MGO RGYAN eYIG MGO
  cBSDUS RTAGS cBSKA- SHOG GI MGO RGYAN cBSKUR YIG MGO cCARET -DZUD RTAGS BZHI MIG CAN fME LONG CAN
  dYIG MGO PHUR SHAD MA cCHE MGO cCLOSING BRDA RNYING YIG MGO SGAB MA dYIG MGO SGAB MA cDELIMITER
  TSHEG BSTAR cGTER TSHEG dYIG MGO -UM GTER TSHEG MA gRNAM BCAD MA fTRUNCATED A cGUG RTAGS GYAS
  eGYON cHALANTA cINITIAL BRDA RNYING YIG MGO MDUN MA dYIG MGO MDUN MA cINTERSYLLABIC TSHEG
  cLEADING MCHAN RTAGS cMNYAM YIG GI MGO RGYAN cNGAS BZUNG NYI ZLA eSGOR RTAGS cNYIS SHAD dTSHEG
  eSHAD cPALUTA cRGYA GRAM SHAD cRIN CHEN SPUNGS SHAD cSBRUL SHAD cSHAD cTRAILING MCHAN RTAGS cTSA
  -PHRU cTSHEG SHAD cYIG MGO TSHEG SHAD MA bSIGN GRU CAN RGYINGS dMED RGYINGS cINVERTED MCHU CAN
  cLCE TSA CAN cLCI RTAGS cMAR TSHES cMCHU CAN cNYI ZLA NAA DA cRDEL DKAR GCIG eGNYIS eGSUM eRDEL
  NAG dNAG GCIG eGNYIS eGSUM eRDEL DKAR cRJES SU NGA RO cRNAM BCAD cSNA LDAN cYANG RTAGS cYAR TSHES
  bSUBJOINED LETTER -A dA dBA dBHA dCA dCHA dDA dDDA dDDHA dDHA dDZA dDZHA dFIXED-FORM RA eWA eYA
  dGA dGHA dHA dJA dKA dKHA dKSSA dLA dMA dNA dNGA dNNA dNYA dPA dPHA dRA dSA dSHA dSSA dTA dTHA
  dTSA dTSHA dTTA dTTHA dWA dYA dZA dZHA cSIGN INVERTED MCHU CAN dLCE TSA CAN dMCHU CAN bSYLLABLE
  OM bSYMBOL DRIL BU cNOR BU eBZHI -KHYIL eGSUM -KHYIL eNYIS -KHYIL cPADMA GDAN cPHUR PA cRDO RJE
  eRGYA GRAM bVOWEL SIGN AA dE dEE dI dII dO dOO dREVERSED I eII dU dUU dVOCALIC L eLL eR eRR
  aTICKET aTIE OVER INFINITY aTIFINAGH CONSONANT JOINER bLETTER AHAGGAR YAZH cAYER YAGH cBERBER
  ACADEMY YAH eYAJ cTAWELLEMET YAZ cTUAREG YAGH dYAGN dYAH dYAK dYAKH dYANG dYAQ dYAZH cYA cYAA
  cYAB cYABH cYACH cYAD cYADD cYADDH cYADH cYAF cYAG cYAGH cYAGHH cYAH cYAHH cYAJ cYAK cYAKH cYAKHH
  cYAL cYAM cYAN cYAP cYAQ cYAR cYARR cYAS cYASH cYASS cYAT cYATH cYATT cYAV cYAW cYAY cYAZ cYAZH
  cYAZZ cYE cYEY cYI cYO cYU bMODIFIER LETTER LABIALIZATION MARK bSEPARATOR MARK aTIGER bFACE
  aTIGHT TRIFOLIATE SNOWFLAKE aTILDE bOPERATOR cABOVE LEFTWARDS ARROW dRIGHTWARDS ARROW cWITH DOT
  ABOVE dRISING DOTS bWITH DOT ABOVE dBELOW cRING ABOVE aTIMER CLOCK aTIMES WITH LEFT HALF BLACK
  cRIGHT HALF BLACK aTINY bTWO DOTS OVER ONE DOT PUNCTUATION aTIRED FACE aTIRHUTA ABBREVIATION SIGN
  bANJI bDIGIT EIGHT cFIVE cFOUR cNINE cONE cSEVEN cSIX cTHREE cTWO cZERO bGVANG bLETTER A cAA cAI
  cAU cBA cBHA cCA cCHA cDA cDDA cDDHA cDHA cE cGA cGHA cHA cI cII cJA cJHA cKA cKHA cLA cMA cNA
  cNGA cNNA cNYA cO cPA cPHA cRA cSA cSHA cSSA cTA cTHA cTTA cTTHA cU cUU cVA cVOCALIC L dLL dR dRR
  cYA bOM bSIGN ANUSVARA cAVAGRAHA cCANDRABINDU cNUKTA cVIRAMA cVISARGA bVOWEL SIGN AA dAI dAU dE
  dI dII dO dSHORT E eO dU dUU dVOCALIC L eLL eR eRR aTIRONIAN SIGN CAPITAL ET cET aTOILET aTOKYO
  TOWER aTOMATO aTONGUE aTOOLBOX aTOOTH aTOOTHBRUSH aTOP ARC ANTICLOCKWISE ARROW eWITH PLUS
  cCLOCKWISE ARROW WITH MINUS bCURLY BRACKET bHALF BLACK CIRCLE cINTEGRAL cLEFT PARENTHESIS cRIGHT
  PARENTHESIS cSECTION SIGN bHAT bLEFT CORNER cCROP cHALF BRACKET bPARENTHESIS bRIGHT CORNER cCROP
  cHALF BRACKET bSQUARE BRACKET bTORTOISE SHELL BRACKET bWITH UPWARDS ARROW ABOVE aTORTOISE SHELL
  BRACKETED CJK UNIFIED IDEOGRAPH-4E09 fIDEOGRAPH-4E8C fIDEOGRAPH-52DD fIDEOGRAPH-5B89
  fIDEOGRAPH-6253 fIDEOGRAPH-6557 fIDEOGRAPH-672C fIDEOGRAPH-70B9 fIDEOGRAPH-76D7 dLATIN CAPITAL
  LETTER S aTOTAL RUNOUT aTOTO LETTER A cAE cBA cBREATHY AE dE dEO dI dIU cCHA cDA cE cEO cGA cHA
  cI cIU cJA cKA cLA cMA cNA cNGA cO cPA cRA cSA cTA cU cWA cYA bSIGN RISING TONE aTRACKBALL
  aTRACTOR aTRADE MARK SIGN aTRAIN aTRAM bCAR aTRANSPLUTO aTRANSVERSAL INTERSECTION aTRIANGLE WITH
  DOT ABOVE cROUNDED CORNERS cSERIFS AT BOTTOM cUNDERBAR aTRIANGLE-HEADED RIGHTWARDS ARROW
  aTRIANGULAR BULLET bFLAG ON POST bRULER aTRICOLON aTRIDENT EMBLEM aTRIGRAM FOR EARTH cFIRE
  cHEAVEN cLAKE cMOUNTAIN cTHUNDER cWATER cWIND aTRIPLE COLON OPERATOR bDAGGER bHORIZONTAL BAR WITH
  DOUBLE VERTICAL STROKE eTRIPLE VERTICAL STROKE bINTEGRAL bNESTED GREATER-THAN cLESS-THAN bPLUS
  bPRIME bSOLIDUS BINARY RELATION bTILDE bVERTICAL BAR BINARY RELATION dDELIMITER dRIGHT TURNSTILE
  dWITH HORIZONTAL STROKE aTROLL aTROLLEYBUS aTROPHY aTROPICAL DRINK bFISH aTRUE bLIGHT MOON ARTA
  aTRUMPET aTUGRIK SIGN aTULIP aTUMBLER GLASS aTURKEY aTURKISH LIRA SIGN aTURNED AMPERSAND bANGLE
  bBLACK PENTAGON cSHOGI PIECE bCAPITAL F bCOMMA bDAGGER bDIGIT THREE cTWO bGREEK SMALL LETTER IOTA
  bNORTH EAST POINTING LEAF cWEST POINTING LEAF bNOT SIGN bOK HAND SIGN bSANS-SERIF CAPITAL G dL dY
  bSEMICOLON bSMALL F bSOUTH EAST POINTING LEAF cWEST POINTING LEAF bWHITE SHOGI PIECE aTURTLE
  aTWELVE POINTED BLACK STAR aTWISTED RIGHTWARDS ARROWS aTWO ASTERISKS ALIGNED VERTICALLY bBUTTON
  MOUSE bCONSECUTIVE EQUALS SIGNS bDOT LEADER cPUNCTUATION bDOTS OVER ONE DOT PUNCTUATION bHEARTS
  bINTERSECTING LOGICAL AND dOR bJOINED SQUARES bLOGICAL AND OPERATOR cOR OPERATOR bMEN HOLDING
  HANDS bSPEECH BUBBLES bWOMEN HOLDING HANDS aTWO-EM DASH aUGARITIC LETTER AIN cALPA cBETA cDELTA
  cDHAL cGAMLA cGHAIN cHO cHOTA cI cKAF cKHA cLAMDA cMEM cNUN cPU cQOPA cRASHA cSADE cSAMKA cSHIN
  cSSU cTET cTHANNA cTO cU cWO cYOD cZETA cZU bWORD DIVIDER aUMBRELLA bON GROUND bWITH RAIN DROPS
  aUNAMUSED FACE aUNCERTAINTY SIGN aUNDERTIE aUNDO SYMBOL aUNICORN FACE aUNION bABOVE BAR ABOVE
  INTERSECTION cINTERSECTION bBESIDE AND JOINED WITH UNION bWITH LOGICAL OR cMINUS SIGN cOVERBAR
  aUNIT SEPARATOR aUNITED SYMBOL aUNIVERSAL RECYCLING SYMBOL aUNMARRIED PARTNERSHIP SYMBOL aUP
  ARROW THROUGH CIRCLE bARROWHEAD cBETWEEN TWO HORIZONTAL BARS cIN A RECTANGLE BOX bBARB LEFT DOWN
  BARB LEFT HARPOON fRIGHT HARPOON cRIGHT DOWN BARB LEFT HARPOON fRIGHT HARPOON bDOWN ARROW dWITH
  BASE cBLACK ARROW cDOUBLE ARROW cSANS-SERIF ARROW cTRIANGLE-HEADED ARROW cWHITE ARROW bFISH TAIL
  bRIGHT DIAGONAL ELLIPSIS bTACK cWITH CIRCLE ABOVE aUP-POINTING AIRPLANE bMILITARY AIRPLANE bRED
  TRIANGLE bSMALL AIRPLANE cRED TRIANGLE bTRIANGLE WITH LEFT HALF BLACK dRIGHT HALF BLACK aUPPER
  AND LEFT AND LOWER TRIANGULAR THREE QUARTERS BLOCK cLOWER ONE EIGHTH BLOCK dTRIANGULAR HALF BLOCK
  cRIGHT AND LOWER TRIANGULAR THREE QUARTERS BLOCK bBLADE SCISSORS bFIVE EIGHTHS BLOCK bHALF BLOCK
  dAND LOWER HALF INVERSE MEDIUM SHADE cCIRCLE cINVERSE MEDIUM SHADE AND LOWER HALF BLOCK dWHITE
  CIRCLE cMEDIUM SHADE bLEFT BLOCK DIAGONAL LOWER CENTRE TO LOWER MIDDLE RIGHT hUPPER MIDDLE RIGHT
  iRIGHT fLEFT TO LOWER MIDDLE RIGHT hUPPER CENTRE iMIDDLE RIGHT fMIDDLE LEFT TO UPPER CENTRE
  jMIDDLE RIGHT jRIGHT eUPPER MIDDLE LEFT TO UPPER CENTRE jRIGHT cCORNER WITH DOT cOR LOWER RIGHT
  CURLY BRACKET SECTION cQUADRANT CIRCULAR ARC cTO LOWER RIGHT FILL cTRIANGLE cTRIANGULAR MEDIUM
  SHADE bONE EIGHTH BLOCK cQUARTER BLOCK bRIGHT BLOCK DIAGONAL LOWER MIDDLE LEFT TO LOWER CENTRE
  jRIGHT eUPPER CENTRE TO LOWER MIDDLE RIGHT iRIGHT hUPPER MIDDLE RIGHT fLEFT TO LOWER CENTRE
  iMIDDLE RIGHT hUPPER MIDDLE RIGHT fMIDDLE LEFT TO LOWER CENTRE jMIDDLE RIGHT jRIGHT
  cDROP-SHADOWED WHITE SQUARE cOR LOWER LEFT CURLY BRACKET SECTION cPENCIL cQUADRANT CIRCULAR ARC
  cSHADOWED WHITE CIRCLE eSQUARE cTO LOWER LEFT FILL cTRIANGLE cTRIANGULAR MEDIUM SHADE bSEVEN
  EIGHTHS BLOCK bTHREE EIGHTHS BLOCK cQUARTERS BLOCK bTRIANGULAR ONE QUARTER BLOCK aUPSIDE-DOWN
  FACE aUPWARDS ANCORA bARROW cAND RIGHT ONE EIGHTH BLOCK cFROM BAR cLEFTWARDS OF DOWNWARDS ARROW
  cTO BAR cWITH DOUBLE STROKE dEQUILATERAL ARROWHEAD dHORIZONTAL STROKE dLARGE TRIANGLE ARROWHEAD
  dMEDIUM TRIANGLE ARROWHEAD dNOTCHED TAIL dSMALL EQUILATERAL ARROWHEAD eTRIANGLE ARROWHEAD dTIP
  LEFTWARDS eRIGHTWARDS bBLACK ARROW cCIRCLED WHITE ARROW bCOMPRESSED ARROW bDASHED ARROW bDOUBLE
  ARROW bFINGER-POST ARROW bHARPOON WITH BARB LEFT BESIDE DOWNWARDS HARPOON WITH BARB RIGHT
  gUPWARDS HARPOON WITH BARB RIGHT fFROM BAR fTO BAR eLEFTWARDS eRIGHT FROM BAR fTO BAR eRIGHTWARDS
  bHEAVY ARROW cCOMPRESSED ARROW bPAIRED ARROWS bQUADRUPLE ARROW bROCKET bSANS-SERIF ARROW bSQUARED
  ARROW bTRIANGLE ARROWHEAD bTRIANGLE-HEADED ARROW dLEFTWARDS OF DOWNWARDS TRIANGLE-HEADED ARROW
  dTO BAR dWITH BOLD SHAFT eDOUBLE HORIZONTAL STROKE eHEAVY SHAFT eLONG TIP LEFTWARDS gRIGHTWARDS
  eMEDIUM SHAFT eNARROW SHAFT eVERY HEAVY SHAFT cDASHED ARROW cPAIRED ARROWS bTRIPLE ARROW bTWO
  HEADED ARROW bTWO-HEADED ARROW FROM SMALL CIRCLE dWITH TRIANGLE ARROWHEADS bWHITE ARROW dFROM BAR
  fWITH HORIZONTAL BAR dON PEDESTAL fWITH HORIZONTAL BAR gVERTICAL BAR dWITHIN TRIANGLE ARROWHEAD
  cDOUBLE ARROW eON PEDESTAL aURANUS aUS aVAI COMMA bDIGIT EIGHT cFIVE cFOUR cNINE cONE cSEVEN cSIX
  cTHREE cTWO cZERO bFULL STOP bQUESTION MARK bSYLLABLE A cAN cBA cBE cBEE cBHA cBHE cBHEE cBHI
  cBHO cBHOO cBHU cBI cBO cBOO cBU cCA cCE cCEE cCI cCO cCOO cCU cDA cDE cDEE cDHA cDHE cDHEE cDHHA
  cDHHE cDHHEE cDHHI cDHHO cDHHOO cDHHU cDHI cDHO cDHOO cDHU cDI cDO cDOO cDU cE cEE cEEN cEN cFA
  cFE cFEE cFI cFO cFOO cFU cGA cGBA cGBE cGBEE cGBEN cGBI cGBO cGBON cGBOO cGBU cGE cGEE cGEN cGI
  cGO cGOO cGU cHA cHAN cHE cHEE cHEN cHI cHIN cHO cHON cHOO cHU cHUN cI cIN cJA cJE cJEE cJI cJO
  cJOO cJU cKA cKAN cKE cKEE cKI cKO cKOO cKPA cKPAN cKPE cKPEE cKPEN cKPI cKPO cKPOO cKPU cKU cLA
  cLE cLEE cLENGTHENER cLI cLO cLOO cLU cMA cMBA cMBE cMBEE cMBI cMBO cMBOO cMBU cME cMEE cMGBA
  cMGBE cMGBEE cMGBI cMGBO cMGBOO cMGBU cMI cMO cMOO cMU cNA cNDA cNDE cNDEE cNDI cNDO cNDOLE DO
  dFA dKA dMA dSOO cNDOO cNDU cNE cNEE cNG cNGAN cNGEN cNGGA cNGGE cNGGEE cNGGEN cNGGI cNGGO cNGGOO
  cNGGU cNGON cNI cNJA cNJE cNJEE cNJI cNJO cNJOO cNJU cNO cNOO cNU cNYA cNYE cNYEE cNYI cNYO cNYOO
  cNYU cO cON cOO cOON cPA cPE cPEE cPI cPO cPOO cPU cRA cRE cREE cRI cRO cROO cRU cSA cSE cSEE
  cSHA cSHE cSHEE cSHI cSHO cSHOO cSHU cSI cSO cSOO cSU cTA cTE cTEE cTHA cTHE cTHEE cTHI cTHO
  cTHOO cTHU cTI cTO cTOO cTU cU cUN cVA cVE cVEE cVI cVO cVOO cVU cWA cWAN cWE cWEE cWEEN cWEN cWI
  cWIN cWO cWON cWOO cWOON cWU cWUN cYA cYE cYEE cYI cYO cYOO cYU cZA cZE cZEE cZHA cZHE cZHEE cZHI
  cZHO cZHOO cZHU cZI cZO cZOO cZU bSYMBOL BANG cDANG cDO-O cDOONG cFAA cFEENG cJONG cKEENG cKUNG
  cNII cTAA cTING cTONG aVAMPIRE aVARIATION SELECTOR-1 bSELECTOR-10 bSELECTOR-100 bSELECTOR-101
  bSELECTOR-102 bSELECTOR-103 bSELECTOR-104 bSELECTOR-105 bSELECTOR-106 bSELECTOR-107 bSELECTOR-108
  bSELECTOR-109 bSELECTOR-11 bSELECTOR-110 bSELECTOR-111 bSELECTOR-112 bSELECTOR-113 bSELECTOR-114
  bSELECTOR-115 bSELECTOR-116 bSELECTOR-117 bSELECTOR-118 bSELECTOR-119 bSELECTOR-12 bSELECTOR-120
  bSELECTOR-121 bSELECTOR-122 bSELECTOR-123 bSELECTOR-124 bSELECTOR-125 bSELECTOR-126 bSELECTOR-127
  bSELECTOR-128 bSELECTOR-129 bSELECTOR-13 bSELECTOR-130 bSELECTOR-131 bSELECTOR-132 bSELECTOR-133
  bSELECTOR-134 bSELECTOR-135 bSELECTOR-136 bSELECTOR-137 bSELECTOR-138 bSELECTOR-139 bSELECTOR-14
  bSELECTOR-140 bSELECTOR-141 bSELECTOR-142 bSELECTOR-143 bSELECTOR-144 bSELECTOR-145 bSELECTOR-146
  bSELECTOR-147 bSELECTOR-148 bSELECTOR-149 bSELECTOR-15 bSELECTOR-150 bSELECTOR-151 bSELECTOR-152
  bSELECTOR-153 bSELECTOR-154 bSELECTOR-155 bSELECTOR-156 bSELECTOR-157 bSELECTOR-158 bSELECTOR-159
  bSELECTOR-16 bSELECTOR-160 bSELECTOR-161 bSELECTOR-162 bSELECTOR-163 bSELECTOR-164 bSELECTOR-165
  bSELECTOR-166 bSELECTOR-167 bSELECTOR-168 bSELECTOR-169 bSELECTOR-17 bSELECTOR-170 bSELECTOR-171
  bSELECTOR-172 bSELECTOR-173 bSELECTOR-174 bSELECTOR-175 bSELECTOR-176 bSELECTOR-177 bSELECTOR-178
  bSELECTOR-179 bSELECTOR-18 bSELECTOR-180 bSELECTOR-181 bSELECTOR-182 bSELECTOR-183 bSELECTOR-184
  bSELECTOR-185 bSELECTOR-186 bSELECTOR-187 bSELECTOR-188 bSELECTOR-189 bSELECTOR-19 bSELECTOR-190
  bSELECTOR-191 bSELECTOR-192 bSELECTOR-193 bSELECTOR-194 bSELECTOR-195 bSELECTOR-196 bSELECTOR-197
  bSELECTOR-198 bSELECTOR-199 bSELECTOR-2 bSELECTOR-20 bSELECTOR-200 bSELECTOR-201 bSELECTOR-202
  bSELECTOR-203 bSELECTOR-204 bSELECTOR-205 bSELECTOR-206 bSELECTOR-207 bSELECTOR-208 bSELECTOR-209
  bSELECTOR-21 bSELECTOR-210 bSELECTOR-211 bSELECTOR-212 bSELECTOR-213 bSELECTOR-214 bSELECTOR-215
  bSELECTOR-216 bSELECTOR-217 bSELECTOR-218 bSELECTOR-219 bSELECTOR-22 bSELECTOR-220 bSELECTOR-221
  bSELECTOR-222 bSELECTOR-223 bSELECTOR-224 bSELECTOR-225 bSELECTOR-226 bSELECTOR-227 bSELECTOR-228
  bSELECTOR-229 bSELECTOR-23 bSELECTOR-230 bSELECTOR-231 bSELECTOR-232 bSELECTOR-233 bSELECTOR-234
  bSELECTOR-235 bSELECTOR-236 bSELECTOR-237 bSELECTOR-238 bSELECTOR-239 bSELECTOR-24 bSELECTOR-240
  bSELECTOR-241 bSELECTOR-242 bSELECTOR-243 bSELECTOR-244 bSELECTOR-245 bSELECTOR-246 bSELECTOR-247
  bSELECTOR-248 bSELECTOR-249 bSELECTOR-25 bSELECTOR-250 bSELECTOR-251 bSELECTOR-252 bSELECTOR-253
  bSELECTOR-254 bSELECTOR-255 bSELECTOR-256 bSELECTOR-26 bSELECTOR-27 bSELECTOR-28 bSELECTOR-29
  bSELECTOR-3 bSELECTOR-30 bSELECTOR-31 bSELECTOR-32 bSELECTOR-33 bSELECTOR-34 bSELECTOR-35
  bSELECTOR-36 bSELECTOR-37 bSELECTOR-38 bSELECTOR-39 bSELECTOR-4 bSELECTOR-40 bSELECTOR-41
  bSELECTOR-42 bSELECTOR-43 bSELECTOR-44 bSELECTOR-45 bSELECTOR-46 bSELECTOR-47 bSELECTOR-48
  bSELECTOR-49 bSELECTOR-5 bSELECTOR-50 bSELECTOR-51 bSELECTOR-52 bSELECTOR-53 bSELECTOR-54
  bSELECTOR-55 bSELECTOR-56 bSELECTOR-57 bSELECTOR-58 bSELECTOR-59 bSELECTOR-6 bSELECTOR-60
  bSELECTOR-61 bSELECTOR-62 bSELECTOR-63 bSELECTOR-64 bSELECTOR-65 bSELECTOR-66 bSELECTOR-67
  bSELECTOR-68 bSELECTOR-69 bSELECTOR-7 bSELECTOR-70 bSELECTOR-71 bSELECTOR-72 bSELECTOR-73
  bSELECTOR-74 bSELECTOR-75 bSELECTOR-76 bSELECTOR-77 bSELECTOR-78 bSELECTOR-79 bSELECTOR-8
  bSELECTOR-80 bSELECTOR-81 bSELECTOR-82 bSELECTOR-83 bSELECTOR-84 bSELECTOR-85 bSELECTOR-86
  bSELECTOR-87 bSELECTOR-88 bSELECTOR-89 bSELECTOR-9 bSELECTOR-90 bSELECTOR-91 bSELECTOR-92
  bSELECTOR-93 bSELECTOR-94 bSELECTOR-95 bSELECTOR-96 bSELECTOR-97 bSELECTOR-98 bSELECTOR-99
  aVECTOR OR CROSS PRODUCT aVEDIC SIGN ANUSVARA ANTARGOMUKHA dBAHIRGOMUKHA dUBHAYATO MUKHA
  dVAMAGOMUKHA eWITH TAIL cARDHAVISARGA cATIKRAMA cDOUBLE ANUSVARA ANTARGOMUKHA cHEXIFORM LONG
  ANUSVARA cJIHVAMULIYA cLONG ANUSVARA cNIHSHVASA cREVERSED VISARGA ANUDATTA eUDATTA cROTATED
  ARDHAVISARGA cRTHANG LONG ANUSVARA cTIRYAK cUPADHMANIYA cVISARGA ANUDATTA eWITH TAIL dSVARITA
  dUDATTA eWITH TAIL cYAJURVEDIC MIDLINE SVARITA bTONE ATHARVAVEDIC INDEPENDENT SVARITA cCANDRA
  ABOVE dBELOW cDOT BELOW cDOUBLE RING ABOVE dSVARITA cKARSHANA cKATHAKA ANUDATTA cPRENKHA
  cRIGVEDIC KASHMIRI INDEPENDENT SVARITA cRING ABOVE cSHARA cTHREE DOTS BELOW cTRIPLE SVARITA cTWO
  DOTS BELOW cYAJURVEDIC AGGRAVATED INDEPENDENT SVARITA dINDEPENDENT SVARITA dKATHAKA INDEPENDENT
  SVARITA gSCHROEDER aVERSICLE aVERTICAL BAR BESIDE RIGHT TRIANGLE cDOUBLE LEFT TURNSTILE cTRIPLE
  RIGHT TURNSTILE cWITH HORIZONTAL STROKE bELLIPSIS bFOUR DOTS bIDEOGRAPHIC ITERATION MARK bKANA
  REPEAT MARK eLOWER HALF eUPPER HALF dWITH VOICED SOUND MARK hUPPER HALF bLINE cEXTENSION cWITH
  CIRCLE ABOVE eBELOW dMIDDLE DOT bMALE WITH STROKE SIGN bONE EIGHTH BLOCK-2 dBLOCK-3 dBLOCK-4
  dBLOCK-5 dBLOCK-6 dBLOCK-7 bSIX DOTS bTAB KEY bTABULATION cSET bTILDE bTRAFFIC LIGHT bZIGZAG LINE
  aVERY BOLD GREEK CROSS bHEAVY EIGHT POINTED BLACK STAR dSPOKED ASTERISK cFIVE SPOKED ASTERISK
  cGREEK CROSS cREVERSE SOLIDUS cSALTIRE cSIX SPOKED ASTERISK cSOLIDUS cWHITE CIRCLE dSQUARE bMUCH
  GREATER-THAN cLESS-THAN aVESTA aVIBRATION MODE aVICTORY HAND aVIDEO CAMERA bGAME aVIDEOCASSETTE
  aVIETNAMESE ALTERNATE READING MARK CA eNHAY aVIEWDATA SQUARE aVIOLIN aVIRGO aVITHKUQI CAPITAL
  LETTER A dBBE dBE dCE dCHE dDE dDHE dE dEI dFE dGA dHA dHHA dI dIJE dJE dKA dLA dLLA dME dNE dNJE
  dO dPE dQA dRE dSE dSHE dTE dTHE dU dVE dXE dY dZE bSMALL LETTER A dBBE dBE dCE dCHE dDE dDHE dE
  dEI dFE dGA dHA dHHA dI dIJE dJE dKA dLA dLLA dME dNE dNJE dO dPE dQA dRE dSE dSHE dTE dTHE dU
  dVE dXE dY dZE aVOIDED GREEK CROSS aVOLCANO aVOLLEYBALL aVOLUME INTEGRAL aVS1 aVS10 aVS100 aVS101
  aVS102 aVS103 aVS104 aVS105 aVS106 aVS107 aVS108 aVS109 aVS11 aVS110 aVS111 aVS112 aVS113 aVS114
  aVS115 aVS116 aVS117 aVS118 aVS119 aVS12 aVS120 aVS121 aVS122 aVS123 aVS124 aVS125 aVS126 aVS127
  aVS128 aVS129 aVS13 aVS130 aVS131 aVS132 aVS133 aVS134 aVS135 aVS136 aVS137 aVS138 aVS139 aVS14
  aVS140 aVS141 aVS142 aVS143 aVS144 aVS145 aVS146 aVS147 aVS148 aVS149 aVS15 aVS150 aVS151 aVS152
  aVS153 aVS154 aVS155 aVS156 aVS157 aVS158 aVS159 aVS16 aVS160 aVS161 aVS162 aVS163 aVS164 aVS165
  aVS166 aVS167 aVS168 aVS169 aVS17 aVS170 aVS171 aVS172 aVS173 aVS174 aVS175 aVS176 aVS177 aVS178
  aVS179 aVS18 aVS180 aVS181 aVS182 aVS183 aVS184 aVS185 aVS186 aVS187 aVS188 aVS189 aVS19 aVS190
  aVS191 aVS192 aVS193 aVS194 aVS195 aVS196 aVS197 aVS198 aVS199 aVS2 aVS20 aVS200 aVS201 aVS202
  aVS203 aVS204 aVS205 aVS206 aVS207 aVS208 aVS209 aVS21 aVS210 aVS211 aVS212 aVS213 aVS214 aVS215
  aVS216 aVS217 aVS218 aVS219 aVS22 aVS220 aVS221 aVS222 aVS223 aVS224 aVS225 aVS226 aVS227 aVS228
  aVS229 aVS23 aVS230 aVS231 aVS232 aVS233 aVS234 aVS235 aVS236 aVS237 aVS238 aVS239 aVS24 aVS240
  aVS241 aVS242 aVS243 aVS244 aVS245 aVS246 aVS247 aVS248 aVS249 aVS25 aVS250 aVS251 aVS252 aVS253
  aVS254 aVS255 aVS256 aVS26 aVS27 aVS28 aVS29 aVS3 aVS30 aVS31 aVS32 aVS33 aVS34 aVS35 aVS36 aVS37
  aVS38 aVS39 aVS4 aVS40 aVS41 aVS42 aVS43 aVS44 aVS45 aVS46 aVS47 aVS48 aVS49 aVS5 aVS50 aVS51
  aVS52 aVS53 aVS54 aVS55 aVS56 aVS57 aVS58 aVS59 aVS6 aVS60 aVS61 aVS62 aVS63 aVS64 aVS65 aVS66
  aVS67 aVS68 aVS69 aVS7 aVS70 aVS71 aVS72 aVS73 aVS74 aVS75 aVS76 aVS77 aVS78 aVS79 aVS8 aVS80
  aVS81 aVS82 aVS83 aVS84 aVS85 aVS86 aVS87 aVS88 aVS89 aVS9 aVS90 aVS91 aVS92 aVS93 aVS94 aVS95
  aVS96 aVS97 aVS98 aVS99 aVT aVTS aVULCANUS aVULGAR FRACTION FIVE EIGHTHS dSIXTHS cFOUR FIFTHS
  cONE EIGHTH dFIFTH dHALF dNINTH dQUARTER dSEVENTH dSIXTH dTENTH dTHIRD cSEVEN EIGHTHS cTHREE
  EIGHTHS dFIFTHS dQUARTERS cTWO FIFTHS dTHIRDS cZERO THIRDS aWAFFLE aWANCHO DIGIT EIGHT cFIVE
  cFOUR cNINE cONE cSEVEN cSIX cTHREE cTWO cZERO bLETTER A cAA cAAN cAANG cANG cAU cBA cCA cDA cE
  cEN cFA cGA cHA cI cING cJA cKA cKHA cLA cLLHA cMA cNA cNGA cNYA cO cON cONG cPA cPHA cRA cSA
  cSHA cTA cTHA cTRA cTSA cU cUEN cVA cWA cYA cYIH cZA bNGUN SIGN bTONE KOI cKOINI cTUP cTUPNI
  aWANING CRESCENT MOON SYMBOL bGIBBOUS MOON SYMBOL aWARANG CITI CAPITAL LETTER A eAM eANG eAT eBU
  eDA eE eENN eENY eGA eHAR eHIYO eHOLO eHORR eII eKO eNGAA eNUNG eO eODD ePU eSII eSSUU eTTE eUC
  eUU eVIYO eWI eYA eYO eYU eYUJ cDIGIT EIGHT dFIVE dFOUR dNINE dONE dSEVEN dSIX dTHREE dTWO dZERO
  cNUMBER EIGHTY dFIFTY dFORTY dNINETY dSEVENTY dSIXTY dTEN dTHIRTY dTWENTY cOM cSMALL LETTER A eAM
  eANG eAT eBU eDA eE eENN eENY eGA eHAR eHIYO eHOLO eHORR eII eKO eNGAA eNUNG eO eODD ePU eSII
  eSSUU eTTE eUC eUU eVIYO eWI eYA eYO eYU eYUJ aWARNING SIGN aWASTEBASKET aWATCH aWATER BUFFALO
  bCLOSET bPOLO bWAVE aWATERMELON aWAVE ARROW POINTING DIRECTLY LEFT eRIGHT bDASH aWAVING BLACK
  FLAG bHAND SIGN bWHITE FLAG aWAVY DASH bLINE bLOW LINE bOVERLINE aWAXING CRESCENT MOON SYMBOL
  bGIBBOUS MOON SYMBOL aWEARY CAT FACE bFACE aWEDDING aWEDGE-TAILED RIGHTWARDS ARROW aWEIERSTRASS
  ELLIPTIC FUNCTION aWEIGHT LIFTER aWEST SYRIAC CROSS aWHALE aWHEEL bOF DHARMA aWHEELCHAIR SYMBOL
  aWHITE ARROW SHAFT WIDTH ONE eTWO THIRDS bBULLET bCHESS BISHOP dROTATED NINETY DEGREES eTWO
  HUNDRED SEVENTY DEGREES cEQUIHOPPER dROTATED NINETY DEGREES cKING dROTATED NINETY DEGREES eTWO
  HUNDRED SEVENTY DEGREES cKNIGHT dROTATED FORTY-FIVE DEGREES eNINETY DEGREES eONE HUNDRED
  THIRTY-FIVE DEGREES eTHREE HUNDRED FIFTEEN DEGREES eTWO HUNDRED SEVENTY DEGREES gTWENTY-FIVE
  DEGREES cKNIGHT-BISHOP cKNIGHT-QUEEN cKNIGHT-ROOK cPAWN dROTATED NINETY DEGREES eTWO HUNDRED
  SEVENTY DEGREES cQUEEN dROTATED NINETY DEGREES eTWO HUNDRED SEVENTY DEGREES cROOK dROTATED NINETY
  DEGREES eTWO HUNDRED SEVENTY DEGREES cTURNED BISHOP dKING dKNIGHT dPAWN dQUEEN dROOK bCIRCLE
  cCONTAINING BLACK SMALL CIRCLE cWITH DOT RIGHT dDOWN ARROW dLOWER LEFT QUADRANT eRIGHT QUADRANT
  dTWO DOTS dUPPER LEFT QUADRANT eRIGHT QUADRANT bCLUB SUIT bCONCAVE-SIDED DIAMOND dWITH LEFTWARDS
  TICK eRIGHTWARDS TICK bDIAMOND cCONTAINING BLACK MEDIUM DIAMOND eSMALL DIAMOND eVERY SMALL
  DIAMOND cIN SQUARE cSUIT cWITH CENTRED DOT bDOWN POINTING BACKHAND INDEX dINDEX dLEFT HAND INDEX
  bDOWN-POINTING SMALL TRIANGLE cTRIANGLE bDRAUGHTS KING cMAN bEXCLAMATION MARK ORNAMENT bFLAG
  cWITH HORIZONTAL MIDDLE BLACK STRIPE bFLORETTE bFLOWER bFOUR POINTED CUSP dSTAR bFROWNING FACE
  bHARD SHELL FLOPPY DISK bHEART cSUIT bHEAVY CHECK MARK cSALTIRE WITH ROUNDED CORNERS bHEXAGON
  bHORIZONTAL ELLIPSE bHOURGLASS bLARGE SQUARE bLATIN CROSS bLEFT LANE MERGE cPOINTING BACKHAND
  INDEX dINDEX bLEFT-POINTING POINTER cSMALL TRIANGLE cTRIANGLE bLOZENGE CONTAINING BLACK SMALL
  LOZENGE bMEDIUM DIAMOND cLOZENGE cSMALL SQUARE cSQUARE cSTAR bMOON SELENA bNIB bPARALLELOGRAM
  bPENNANT bPENTAGON bQUESTION MARK ORNAMENT bRECTANGLE bRIGHT POINTING BACKHAND INDEX dINDEX
  bRIGHT-POINTING PENTAGON cPOINTER cSMALL TRIANGLE cTRIANGLE bSCISSORS bSESAME DOT bSHOGI PIECE
  bSMALL LOZENGE cSQUARE cSTAR bSMILING FACE bSPADE SUIT bSQUARE cBUTTON cCONTAINING BLACK MEDIUM
  SQUARE eSMALL SQUARE eVERY SMALL SQUARE cWITH CENTRE VERTICAL LINE dLEFTWARDS TICK dLOWER LEFT
  QUADRANT eRIGHT QUADRANT dRIGHTWARDS TICK dROUNDED CORNERS dUPPER LEFT QUADRANT eRIGHT QUADRANT
  dVERTICAL BISECTING LINE bSTAR bSUN cBEHIND CLOUD eWITH RAIN cWITH RAYS dSMALL CLOUD bTELEPHONE
  bTOUCHTONE TELEPHONE bTRAPEZIUM bTRIANGLE CONTAINING SMALL WHITE TRIANGLE bTWO-WAY LEFT WAY
  TRAFFIC bUP POINTING BACKHAND INDEX dINDEX bUP-POINTING CHEVRON cSMALL TRIANGLE cTRIANGLE dWITH
  DOT bVERTICAL BAR cELLIPSE cRECTANGLE bVERY SMALL SQUARE aWHITE-FEATHERED RIGHTWARDS ARROW
  aWIDE-HEADED DOWNWARDS BARB ARROW cHEAVY BARB ARROW cLIGHT BARB ARROW cMEDIUM BARB ARROW cVERY
  HEAVY BARB ARROW bLEFTWARDS BARB ARROW cHEAVY BARB ARROW cLIGHT BARB ARROW cMEDIUM BARB ARROW
  cVERY HEAVY BARB ARROW bNORTH EAST BARB ARROW dHEAVY BARB ARROW dLIGHT BARB ARROW dMEDIUM BARB
  ARROW dVERY HEAVY BARB ARROW cWEST BARB ARROW dHEAVY BARB ARROW dLIGHT BARB ARROW dMEDIUM BARB
  ARROW dVERY HEAVY BARB ARROW bRIGHTWARDS BARB ARROW cHEAVY BARB ARROW cLIGHT BARB ARROW cMEDIUM
  BARB ARROW cVERY HEAVY BARB ARROW bSOUTH EAST BARB ARROW dHEAVY BARB ARROW dLIGHT BARB ARROW
  dMEDIUM BARB ARROW dVERY HEAVY BARB ARROW cWEST BARB ARROW dHEAVY BARB ARROW dLIGHT BARB ARROW
  dMEDIUM BARB ARROW dVERY HEAVY BARB ARROW bUPWARDS BARB ARROW cHEAVY BARB ARROW cLIGHT BARB ARROW
  cMEDIUM BARB ARROW cVERY HEAVY BARB ARROW aWIGGLY VERTICAL LINE aWILTED FLOWER aWIND BLOWING FACE
  bCHIME aWINDOW aWINE GLASS aWINKING FACE aWIRED KEYBOARD aWJ aWOLF FACE aWOMAN bWITH BUNNY EARS
  aWOMANS BOOTS bCLOTHES bHAT bSANDAL aWOMENS SYMBOL aWON SIGN aWOOD aWORD JOINER bSEPARATOR MIDDLE
  DOT aWORLD MAP aWORM aWORRIED FACE aWRAPPED PRESENT aWREATH PRODUCT aWRENCH aWRESTLERS aWRITING
  HAND aX IN A RECTANGLE BOX aX-RAY aXIANGQI BLACK CANNON cCHARIOT cELEPHANT cGENERAL cHORSE
  cMANDARIN cSOLDIER bRED CANNON cCHARIOT cELEPHANT cGENERAL cHORSE cMANDARIN cSOLDIER aXOR
  aYAWNING FACE aYELLOW HEART aYEN SIGN aYEZIDI COMBINING HAMZA MARK cMADDA MARK bHYPHENATION MARK
  bLETTER BE cCHHIM cCHIM cCIM cDAD cDAL cELIF cET cEW cEYN cFA cGAF cHAY cHHA cJA cKAF cKHAF cLAM
  dWITH DOT ABOVE cMIM cNUN cOW cPE cPHE cQAF cRA cRHA cSAD cSE cSHIN cSIN cTA cTHE cUM cVA
  dALTERNATE FORM cWAW cXA cXHEYN cYOT dWITH CIRCUMFLEX ABOVE cZA cZAL cZE aYI RADICAL BBUT cBUR
  cCHE cCIP cCUOP cCY cCYP cCYT cDDUR cDU cGA cGEP cGGOP cGGUO cGOT cHMO cHXIT cHXOP cHXUO cJJIE
  cJJUT cJJY cJO cKE cKIT cLI cLIE cLYR cMI cMOP cNBIE cNYIP cNYOP cNZUP cOP cPUT cPYT cQOT cSHAT
  cSHOP cSHUR cSHY cSSI cTAT cTU cVEP cVUR cWO cYIT cYO cZA cZOT cZUP cZUR cZZIET bSYLLABLE A cAP
  cAT cAX cBA cBAP cBAT cBAX cBBA cBBAP cBBAT cBBAX cBBE cBBEP cBBEX cBBI cBBIE cBBIEP cBBIET
  cBBIEX cBBIP cBBIT cBBIX cBBO cBBOP cBBOT cBBOX cBBU cBBUO cBBUOP cBBUOX cBBUP cBBUR cBBURX cBBUT
  cBBUX cBBY cBBYP cBBYT cBBYX cBE cBEP cBEX cBI cBIE cBIEP cBIET cBIEX cBIP cBIT cBIX cBO cBOP
  cBOT cBOX cBU cBUO cBUOP cBUOX cBUP cBUR cBURX cBUT cBUX cBY cBYP cBYR cBYRX cBYT cBYX cCA cCAP
  cCAT cCAX cCE cCEP cCEX cCHA cCHAP cCHAT cCHAX cCHE cCHEP cCHET cCHEX cCHO cCHOP cCHOT cCHOX cCHU
  cCHUO cCHUOP cCHUOT cCHUOX cCHUP cCHUR cCHURX cCHUX cCHY cCHYP cCHYR cCHYRX cCHYT cCHYX cCI cCIE
  cCIEP cCIET cCIEX cCIP cCIT cCIX cCO cCOP cCOT cCOX cCU cCUO cCUOP cCUOX cCUP cCUR cCURX cCUT
  cCUX cCY cCYP cCYR cCYRX cCYT cCYX cDA cDAP cDAT cDAX cDDA cDDAP cDDAT cDDAX cDDE cDDEP cDDEX
  cDDI cDDIE cDDIEP cDDIEX cDDIP cDDIT cDDIX cDDO cDDOP cDDOT cDDOX cDDU cDDUO cDDUOP cDDUOX cDDUP
  cDDUR cDDURX cDDUT cDDUX cDE cDEP cDEX cDI cDIE cDIEP cDIEX cDIP cDIT cDIX cDO cDOP cDOT cDOX cDU
  cDUO cDUOX cDUP cDUR cDURX cDUT cDUX cE cEX cFA cFAP cFAT cFAX cFI cFIP cFIT cFIX cFO cFOP cFOX
  cFU cFUP cFUR cFURX cFUT cFUX cFY cFYP cFYT cFYX cGA cGAP cGAT cGAX cGE cGEP cGET cGEX cGGA cGGAP
  cGGAT cGGAX cGGE cGGEP cGGET cGGEX cGGI cGGIE cGGIEP cGGIEX cGGIT cGGIX cGGO cGGOP cGGOT cGGOX
  cGGU cGGUO cGGUOP cGGUOT cGGUOX cGGUP cGGUR cGGURX cGGUT cGGUX cGI cGIE cGIEP cGIET cGIEX cGIP
  cGIT cGIX cGO cGOP cGOT cGOX cGU cGUO cGUOP cGUOT cGUOX cGUP cGUR cGURX cGUT cGUX cHA cHAP cHAT
  cHAX cHE cHEP cHEX cHIE cHIEX cHIT cHLA cHLAP cHLAT cHLAX cHLE cHLEP cHLEX cHLI cHLIE cHLIEP
  cHLIEX cHLIP cHLIT cHLIX cHLO cHLOP cHLOX cHLU cHLUO cHLUOP cHLUOX cHLUP cHLUR cHLURX cHLUT cHLUX
  cHLY cHLYP cHLYR cHLYRX cHLYT cHLYX cHMA cHMAP cHMAT cHMAX cHMI cHMIE cHMIEP cHMIEX cHMIP cHMIT
  cHMIX cHMO cHMOP cHMOT cHMOX cHMU cHMUO cHMUOP cHMUOX cHMUP cHMUR cHMURX cHMUT cHMUX cHMY cHMYP
  cHMYR cHMYRX cHMYX cHNA cHNAP cHNAT cHNAX cHNE cHNEP cHNEX cHNI cHNIE cHNIEP cHNIET cHNIEX cHNIP
  cHNIT cHNIX cHNOP cHNOT cHNOX cHNUO cHNUOX cHNUT cHO cHOP cHOT cHOX cHUO cHUOP cHUOT cHUOX cHXA
  cHXAP cHXAT cHXAX cHXE cHXEP cHXEX cHXI cHXIE cHXIEP cHXIET cHXIEX cHXIP cHXIT cHXIX cHXO cHXOP
  cHXOT cHXOX cHXUO cHXUOP cHXUOT cHXUOX cI cIE cIEP cIET cIEX cIP cIT cITERATION MARK cIX cJI cJIE
  cJIEP cJIET cJIEX cJIP cJIT cJIX cJJI cJJIE cJJIEP cJJIET cJJIEX cJJIP cJJIT cJJIX cJJO cJJOP
  cJJOT cJJOX cJJU cJJUO cJJUOP cJJUOX cJJUP cJJUR cJJURX cJJUT cJJUX cJJY cJJYP cJJYT cJJYX cJO
  cJOP cJOT cJOX cJU cJUO cJUOP cJUOT cJUOX cJUP cJUR cJURX cJUT cJUX cJY cJYP cJYR cJYRX cJYT cJYX
  cKA cKAP cKAT cKAX cKE cKEP cKET cKEX cKI cKIE cKIEP cKIEX cKIP cKIT cKIX cKO cKOP cKOT cKOX cKU
  cKUO cKUOP cKUOX cKUP cKUR cKURX cKUT cKUX cLA cLAP cLAT cLAX cLE cLEP cLEX cLI cLIE cLIEP cLIET
  cLIEX cLIP cLIT cLIX cLO cLOP cLOT cLOX cLU cLUO cLUOP cLUOT cLUOX cLUP cLUR cLURX cLUT cLUX cLY
  cLYP cLYR cLYRX cLYT cLYX cMA cMAP cMAT cMAX cME cMEX cMGA cMGAP cMGAT cMGAX cMGE cMGEP cMGEX
  cMGIE cMGIEX cMGO cMGOP cMGOT cMGOX cMGU cMGUO cMGUOP cMGUOX cMGUP cMGUR cMGURX cMGUT cMGUX cMI
  cMIE cMIEP cMIEX cMIP cMIT cMIX cMO cMOP cMOT cMOX cMU cMUO cMUOP cMUOT cMUOX cMUP cMUR cMURX
  cMUT cMUX cMY cMYP cMYT cMYX cNA cNAP cNAX cNBA cNBAP cNBAT cNBAX cNBI cNBIE cNBIEP cNBIEX cNBIP
  cNBIT cNBIX cNBO cNBOP cNBOT cNBOX cNBU cNBUP cNBUR cNBURX cNBUT cNBUX cNBY cNBYP cNBYR cNBYRX
  cNBYT cNBYX cNDA cNDAP cNDAT cNDAX cNDE cNDEP cNDEX cNDI cNDIE cNDIEX cNDIP cNDIT cNDIX cNDO
  cNDOP cNDOT cNDOX cNDU cNDUP cNDUR cNDURX cNDUT cNDUX cNE cNEP cNEX cNGA cNGAP cNGAT cNGAX cNGE
  cNGEP cNGEX cNGIE cNGIEP cNGIEX cNGO cNGOP cNGOT cNGOX cNGUO cNGUOT cNGUOX cNI cNIE cNIEP cNIEX
  cNIP cNIT cNIX cNJI cNJIE cNJIEP cNJIET cNJIEX cNJIP cNJIT cNJIX cNJO cNJOP cNJOT cNJOX cNJU
  cNJUO cNJUOX cNJUP cNJUR cNJURX cNJUX cNJY cNJYP cNJYR cNJYRX cNJYT cNJYX cNO cNOP cNOT cNOX cNRA
  cNRAP cNRAT cNRAX cNRE cNREP cNRET cNREX cNRO cNROP cNROX cNRU cNRUP cNRUR cNRURX cNRUT cNRUX
  cNRY cNRYP cNRYR cNRYRX cNRYT cNRYX cNU cNUO cNUOP cNUOX cNUP cNUR cNURX cNUT cNUX cNYI cNYIE
  cNYIEP cNYIET cNYIEX cNYIP cNYIT cNYIX cNYO cNYOP cNYOT cNYOX cNYU cNYUO cNYUOP cNYUOX cNYUP
  cNYUT cNYUX cNZA cNZAP cNZAT cNZAX cNZE cNZEX cNZI cNZIE cNZIEP cNZIEX cNZIP cNZIT cNZIX cNZOP
  cNZOX cNZU cNZUO cNZUOX cNZUP cNZUR cNZURX cNZUX cNZY cNZYP cNZYR cNZYRX cNZYT cNZYX cO cOP cOT
  cOX cPA cPAP cPAT cPAX cPI cPIE cPIEP cPIEX cPIP cPIT cPIX cPO cPOP cPOT cPOX cPU cPUO cPUOP
  cPUOX cPUP cPUR cPURX cPUT cPUX cPY cPYP cPYR cPYRX cPYT cPYX cQI cQIE cQIEP cQIET cQIEX cQIP
  cQIT cQIX cQO cQOP cQOT cQOX cQU cQUO cQUOP cQUOT cQUOX cQUP cQUR cQURX cQUT cQUX cQY cQYP cQYR
  cQYRX cQYT cQYX cRA cRAP cRAT cRAX cRE cREP cREX cRO cROP cROT cROX cRRA cRRAX cRRE cRREP cRRET
  cRREX cRRO cRROP cRROT cRROX cRRU cRRUO cRRUOX cRRUP cRRUR cRRURX cRRUT cRRUX cRRY cRRYP cRRYR
  cRRYRX cRRYT cRRYX cRU cRUO cRUOP cRUOX cRUP cRUR cRURX cRUT cRUX cRY cRYP cRYR cRYRX cRYT cRYX
  cSA cSAP cSAT cSAX cSE cSEP cSEX cSHA cSHAP cSHAT cSHAX cSHE cSHEP cSHET cSHEX cSHO cSHOP cSHOT
  cSHOX cSHU cSHUO cSHUOP cSHUOX cSHUP cSHUR cSHURX cSHUT cSHUX cSHY cSHYP cSHYR cSHYRX cSHYT cSHYX
  cSI cSIE cSIEP cSIEX cSIP cSIT cSIX cSO cSOP cSOT cSOX cSSA cSSAP cSSAT cSSAX cSSE cSSEP cSSEX
  cSSI cSSIE cSSIEP cSSIEX cSSIP cSSIT cSSIX cSSO cSSOP cSSOT cSSOX cSSU cSSUP cSSUT cSSUX cSSY
  cSSYP cSSYR cSSYRX cSSYT cSSYX cSU cSUO cSUOP cSUOX cSUP cSUR cSURX cSUT cSUX cSY cSYP cSYR cSYRX
  cSYT cSYX cTA cTAP cTAT cTAX cTE cTEP cTEX cTI cTIE cTIEP cTIEX cTIP cTIT cTIX cTO cTOP cTOT cTOX
  cTU cTUO cTUOP cTUOT cTUOX cTUP cTUR cTURX cTUT cTUX cUO cUOP cUOX cVA cVAP cVAT cVAX cVEP cVEX
  cVI cVIE cVIEP cVIET cVIEX cVIP cVIT cVIX cVO cVOP cVOT cVOX cVU cVUP cVUR cVURX cVUT cVUX cVY
  cVYP cVYR cVYRX cVYT cVYX cWA cWAP cWAT cWAX cWE cWEP cWEX cWO cWOP cWOX cWU cWUO cWUOP cWUOX cXI
  cXIE cXIEP cXIET cXIEX cXIP cXIT cXIX cXO cXOP cXOT cXOX cXUO cXUOX cXY cXYP cXYR cXYRX cXYT cXYX
  cYI cYIE cYIEP cYIET cYIEX cYIP cYIT cYIX cYO cYOP cYOT cYOX cYU cYUO cYUOP cYUOT cYUOX cYUP cYUR
  cYURX cYUT cYUX cYY cYYP cYYR cYYRX cYYT cYYX cZA cZAP cZAT cZAX cZE cZEP cZEX cZHA cZHAP cZHAT
  cZHAX cZHE cZHEP cZHET cZHEX cZHO cZHOP cZHOT cZHOX cZHU cZHUO cZHUOP cZHUOX cZHUP cZHUR cZHURX
  cZHUT cZHUX cZHY cZHYP cZHYR cZHYRX cZHYT cZHYX cZI cZIE cZIEP cZIEX cZIP cZIT cZIX cZO cZOP cZOT
  cZOX cZU cZUO cZUOP cZUOX cZUP cZUR cZURX cZUT cZUX cZY cZYP cZYR cZYRX cZYT cZYX cZZA cZZAP
  cZZAT cZZAX cZZE cZZEP cZZEX cZZI cZZIE cZZIEP cZZIET cZZIEX cZZIP cZZIT cZZIX cZZO cZZOP cZZOX
  cZZU cZZUP cZZUR cZZURX cZZUX cZZY cZZYP cZZYR cZZYRX cZZYT cZZYX aYIN YANG aYO-YO aZ NOTATION
  BAG MEMBERSHIP cDOMAIN ANTIRESTRICTION cLEFT BINDING BRACKET dIMAGE BRACKET cRANGE
  ANTIRESTRICTION cRELATIONAL COMPOSITION cRIGHT BINDING BRACKET dIMAGE BRACKET cSCHEMA COMPOSITION
  dPIPING dPROJECTION cSPOT cTYPE COLON aZANABAZAR SQUARE CLOSING DOUBLE-LINED HEAD MARK dHEAD MARK
  cCLUSTER-FINAL LETTER LA eRA eVA eYA cCLUSTER-INITIAL LETTER RA cFINAL CONSONANT MARK cINITIAL
  DOUBLE-LINED HEAD MARK dHEAD MARK cLETTER -A dA dBA dBHA dCA dCHA dDA dDDA dDDHA dDHA dDZA dDZHA
  dGA dGHA dHA dJA dKA dKHA dKSSA dLA dMA dNA dNGA dNNA dNYA dPA dPHA dRA dSA dSHA dSSA dTA dTHA
  dTSA dTSHA dTTA dTTHA dVA dYA dZA dZHA cMARK DOUBLE SHAD dLONG TSHEG dSHAD dTSHEG cSIGN ANUSVARA
  dCANDRA WITH ORNAMENT dCANDRABINDU eWITH ORNAMENT dVIRAMA dVISARGA cSUBJOINER cVOWEL LENGTH MARK
  dSIGN AI eAU eE eI eO eOE eREVERSED I eU eUE aZEBRA FACE aZERO WIDTH JOINER cNO-BREAK SPACE
  cNON-JOINER cSPACE aZEUS aZIPPER-MOUTH FACE aZNAMENNY COMBINING ATTACHING VERTICAL OMET cLOWER
  TONAL RANGE INDICATOR cMARK BORZAYA dCHASHKA ePOLNAYA dCURVED OMET dDEMESTVENNY ZADERZHKA
  dDVOETOCHIE dGORAZDO NIZKO ON LEFT gRIGHT fS KRYZHEM ON LEFT iRIGHT eVYSOKO dKACHKA dKRYZH eON
  LEFT dKUPNAYA dLOMKA dMALO POVYSHE ON LEFT gRIGHT fS KHOKHLOM ON LEFT iRIGHT gKRYZHEM fSTRANNO
  dNIZKO ON LEFT fRIGHT eS KRYZHEM ON LEFT hRIGHT dOBLACHKO dON dOTSECHKA dPODCHASHIE eWITH
  VERTICAL STROKE dPODVERTKA dPOVYSHE ON LEFT fRIGHT eS KHOKHLOM ON LEFT hRIGHT fKRYZHEM eSTRANNO
  dRAVNO dRAZSEKA dSKOBA dSOROCHYA NOZHKA dSREDNE ON LEFT fRIGHT dSTRANNO MALO POVYSHE dTIKHAYA
  dTOCHKA dTSATA ON LEFT fRIGHT eS KRYZHEM dUDARKA dVYSOKO ON LEFT fRIGHT eS KHOKHLOM ON LEFT
  hRIGHT fKRYZHEM dZADERZHKA dZELO dZEVOK cTONAL RANGE MARK MRACHNO fSVETLO fTRESVETLO bNEUME
  CHASHKA cCHELYUSTKA cDEMESTVENNY KLYUCH cDERBITSA cDOUBLE ZAPYATAYA cDUDA cDVA V CHELNU cFITA
  cGOLUBCHIK BORZY dMRACHNY dSVETLY dTIKHY dTRESVETLY cKHAMILO cKLYUCH cKOBYLA cKRYUK dTIKHY cKRYZH
  cKUFISMA cMECHIK dKLYUCHENEPOSTOYANNY dKLYUCHEPOVODNY dKLYUCHEVOY dPOVODNY cNEMKA cOBLAKO cOSOKA
  dKLYUCHEVAYA NEPOSTOYANNAYA eSVETLAYA dKRYUKOVAYA SVETLAYA dSVETLAYA dTRESVETLAYA cPALKA
  cPARAKLIT cPAUK cPEREVODKA dNEPOSTOYANNAYA cPODCHASHIE cPOLKULIZMY cREVERSED CHELYUSTKA cROG
  cSKAMEYTSA DVOECHELNAYA KLYUCHEVAYA eNEPOSTOYANNAYA ePROSTAYA eSVETLAYA dKLYUCHENEPOSTOYANNAYA
  dKLYUCHEVAYA SVETLAYA eTIKHAYA dMRACHNAYA dSVETLAYA dTIKHAYA dTRESVETLAYA cSLOZHITIE dS KRYZHEM
  eZAPYATOY dZAKRYTOE cSTATYA dNEPOSTOYANNAYA dS DVUMYA ZAPYATYMI eKRYZHEM fI ZAPYATOY eROGOM
  eZAPYATOY fI KRYZHEM gPODCHASHIEM dZAKRYTAYA eS ZAPYATOY cSTOPITSA dS OCHKOM dWITH SOROCHYA
  NOZHKA cSTRELA DVOECHELNAYA eKLYUCHEVAYA dDVOECHELNOKRYZHEVAYA dDVOECHELNOPOVODNAYA eKLYUCHEVAYA
  dGROMNAYA eWITH SINGLE ZAPYATAYA dGROMOKRYZHEVAYA ePOVODNAYA dGROMOPOVODNAYA eWITH DOUBLE
  ZAPYATAYA fSINGLE ZAPYATAYA dKLYUCHENEPOSTOYANNAYA dKLYUCHEPOVODNAYA dKRYUKOVAYA eGROMNAYA fWITH
  SINGLE ZAPYATAYA eGROMOKRYZHEVAYA fPOVODNAYA eGROMOPOVODNAYA fWITH DOUBLE ZAPYATAYA gSINGLE
  ZAPYATAYA ePOVODNAYA eTRYASKA dKRYZHEVAYA dMRACHNOTIKHAYA dNEPOSTOYANNAYA dPOLUPOVODNAYA
  dPOVODNAYA dPROSTAYA dTIKHAYA PUTNAYA dTRYASOGLASNAYA dTRYASOPOVODNAYA dTRYASOSTRELNAYA cVRAKHIYA
  KLYUCHEVAYA MRACHNAYA ePROSTAYA eSVETLAYA eTRESVETLAYA dMRACHNAYA dPROSTAYA dSVETLAYA
  dTRESVETLAYA cZANOZHEK cZAPYATAYA cZMEYTSA bPRIZNAK MODIFIER DIRECTION FLIP dKRYZH dLEVEL-2
  dLEVEL-3 dROG aZOMBIE aZWJ aZWNBSP aZWNJ aZWSP
"

end LineLang.Text
