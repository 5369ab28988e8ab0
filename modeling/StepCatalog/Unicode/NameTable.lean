/-!
The names of characters and their aliases, apart from the names that follow from code points.
-/

namespace StepCatalog.Unicode

-- Names in the order of code points, and aliases after them. An entry `@20` sets the code point of the
-- entry that follows, which is otherwise the next one. Every other entry is a name: its letter tells
-- how many words it shares with the name before it, `a` for none, and the remaining words follow.
def nameTable : String :=
  "@20;aSPACE;aEXCLAMATION MARK;aQUOTATION MARK;aNUMBER SIGN;aDOLLAR SIGN;aPERCENT SIGN;aAMPERSAND
aAPOSTROPHE;aLEFT PARENTHESIS;aRIGHT PARENTHESIS;aASTERISK;aPLUS SIGN;aCOMMA;aHYPHEN-MINUS
aFULL STOP;aSOLIDUS;aDIGIT ZERO;bONE;bTWO;bTHREE;bFOUR;bFIVE;bSIX;bSEVEN;bEIGHT;bNINE;aCOLON
aSEMICOLON;aLESS-THAN SIGN;aEQUALS SIGN;aGREATER-THAN SIGN;aQUESTION MARK;aCOMMERCIAL AT
aLATIN CAPITAL LETTER A;dB;dC;dD;dE;dF;dG;dH;dI;dJ;dK;dL;dM;dN;dO;dP;dQ;dR;dS;dT;dU;dV;dW;dX;dY;dZ
aLEFT SQUARE BRACKET;aREVERSE SOLIDUS;aRIGHT SQUARE BRACKET;aCIRCUMFLEX ACCENT;aLOW LINE
aGRAVE ACCENT;aLATIN SMALL LETTER A;dB;dC;dD;dE;dF;dG;dH;dI;dJ;dK;dL;dM;dN;dO;dP;dQ;dR;dS;dT;dU;dV
dW;dX;dY;dZ;aLEFT CURLY BRACKET;aVERTICAL LINE;aRIGHT CURLY BRACKET;aTILDE;@A0;aNO-BREAK SPACE
aINVERTED EXCLAMATION MARK;aCENT SIGN;aPOUND SIGN;aCURRENCY SIGN;aYEN SIGN;aBROKEN BAR
aSECTION SIGN;aDIAERESIS;aCOPYRIGHT SIGN;aFEMININE ORDINAL INDICATOR
aLEFT-POINTING DOUBLE ANGLE QUOTATION MARK;aNOT SIGN;aSOFT HYPHEN;aREGISTERED SIGN;aMACRON
aDEGREE SIGN;aPLUS-MINUS SIGN;aSUPERSCRIPT TWO;bTHREE;aACUTE ACCENT;aMICRO SIGN;aPILCROW SIGN
aMIDDLE DOT;aCEDILLA;aSUPERSCRIPT ONE;aMASCULINE ORDINAL INDICATOR
aRIGHT-POINTING DOUBLE ANGLE QUOTATION MARK;aVULGAR FRACTION ONE QUARTER;dHALF;cTHREE QUARTERS
aINVERTED QUESTION MARK;aLATIN CAPITAL LETTER A WITH GRAVE;fACUTE;fCIRCUMFLEX;fTILDE;fDIAERESIS
fRING ABOVE;dAE;dC WITH CEDILLA;dE WITH GRAVE;fACUTE;fCIRCUMFLEX;fDIAERESIS;dI WITH GRAVE;fACUTE
fCIRCUMFLEX;fDIAERESIS;dETH;dN WITH TILDE;dO WITH GRAVE;fACUTE;fCIRCUMFLEX;fTILDE;fDIAERESIS
aMULTIPLICATION SIGN;aLATIN CAPITAL LETTER O WITH STROKE;dU WITH GRAVE;fACUTE;fCIRCUMFLEX
fDIAERESIS;dY WITH ACUTE;dTHORN;bSMALL LETTER SHARP S;dA WITH GRAVE;fACUTE;fCIRCUMFLEX;fTILDE
fDIAERESIS;fRING ABOVE;dAE;dC WITH CEDILLA;dE WITH GRAVE;fACUTE;fCIRCUMFLEX;fDIAERESIS
dI WITH GRAVE;fACUTE;fCIRCUMFLEX;fDIAERESIS;dETH;dN WITH TILDE;dO WITH GRAVE;fACUTE;fCIRCUMFLEX
fTILDE;fDIAERESIS;aDIVISION SIGN;aLATIN SMALL LETTER O WITH STROKE;dU WITH GRAVE;fACUTE
fCIRCUMFLEX;fDIAERESIS;dY WITH ACUTE;dTHORN;dY WITH DIAERESIS;bCAPITAL LETTER A WITH MACRON
bSMALL LETTER A WITH MACRON;bCAPITAL LETTER A WITH BREVE;bSMALL LETTER A WITH BREVE
bCAPITAL LETTER A WITH OGONEK;bSMALL LETTER A WITH OGONEK;bCAPITAL LETTER C WITH ACUTE
bSMALL LETTER C WITH ACUTE;bCAPITAL LETTER C WITH CIRCUMFLEX;bSMALL LETTER C WITH CIRCUMFLEX
bCAPITAL LETTER C WITH DOT ABOVE;bSMALL LETTER C WITH DOT ABOVE;bCAPITAL LETTER C WITH CARON
bSMALL LETTER C WITH CARON;bCAPITAL LETTER D WITH CARON;bSMALL LETTER D WITH CARON
bCAPITAL LETTER D WITH STROKE;bSMALL LETTER D WITH STROKE;bCAPITAL LETTER E WITH MACRON
bSMALL LETTER E WITH MACRON;bCAPITAL LETTER E WITH BREVE;bSMALL LETTER E WITH BREVE
bCAPITAL LETTER E WITH DOT ABOVE;bSMALL LETTER E WITH DOT ABOVE;bCAPITAL LETTER E WITH OGONEK
bSMALL LETTER E WITH OGONEK;bCAPITAL LETTER E WITH CARON;bSMALL LETTER E WITH CARON
bCAPITAL LETTER G WITH CIRCUMFLEX;bSMALL LETTER G WITH CIRCUMFLEX;bCAPITAL LETTER G WITH BREVE
bSMALL LETTER G WITH BREVE;bCAPITAL LETTER G WITH DOT ABOVE;bSMALL LETTER G WITH DOT ABOVE
bCAPITAL LETTER G WITH CEDILLA;bSMALL LETTER G WITH CEDILLA;bCAPITAL LETTER H WITH CIRCUMFLEX
bSMALL LETTER H WITH CIRCUMFLEX;bCAPITAL LETTER H WITH STROKE;bSMALL LETTER H WITH STROKE
bCAPITAL LETTER I WITH TILDE;bSMALL LETTER I WITH TILDE;bCAPITAL LETTER I WITH MACRON
bSMALL LETTER I WITH MACRON;bCAPITAL LETTER I WITH BREVE;bSMALL LETTER I WITH BREVE
bCAPITAL LETTER I WITH OGONEK;bSMALL LETTER I WITH OGONEK;bCAPITAL LETTER I WITH DOT ABOVE
bSMALL LETTER DOTLESS I;bCAPITAL LIGATURE IJ;bSMALL LIGATURE IJ;bCAPITAL LETTER J WITH CIRCUMFLEX
bSMALL LETTER J WITH CIRCUMFLEX;bCAPITAL LETTER K WITH CEDILLA;bSMALL LETTER K WITH CEDILLA;dKRA
bCAPITAL LETTER L WITH ACUTE;bSMALL LETTER L WITH ACUTE;bCAPITAL LETTER L WITH CEDILLA
bSMALL LETTER L WITH CEDILLA;bCAPITAL LETTER L WITH CARON;bSMALL LETTER L WITH CARON
bCAPITAL LETTER L WITH MIDDLE DOT;bSMALL LETTER L WITH MIDDLE DOT;bCAPITAL LETTER L WITH STROKE
bSMALL LETTER L WITH STROKE;bCAPITAL LETTER N WITH ACUTE;bSMALL LETTER N WITH ACUTE
bCAPITAL LETTER N WITH CEDILLA;bSMALL LETTER N WITH CEDILLA;bCAPITAL LETTER N WITH CARON
bSMALL LETTER N WITH CARON;ePRECEDED BY APOSTROPHE;bCAPITAL LETTER ENG;bSMALL LETTER ENG
bCAPITAL LETTER O WITH MACRON;bSMALL LETTER O WITH MACRON;bCAPITAL LETTER O WITH BREVE
bSMALL LETTER O WITH BREVE;bCAPITAL LETTER O WITH DOUBLE ACUTE;bSMALL LETTER O WITH DOUBLE ACUTE
bCAPITAL LIGATURE OE;bSMALL LIGATURE OE;bCAPITAL LETTER R WITH ACUTE;bSMALL LETTER R WITH ACUTE
bCAPITAL LETTER R WITH CEDILLA;bSMALL LETTER R WITH CEDILLA;bCAPITAL LETTER R WITH CARON
bSMALL LETTER R WITH CARON;bCAPITAL LETTER S WITH ACUTE;bSMALL LETTER S WITH ACUTE
bCAPITAL LETTER S WITH CIRCUMFLEX;bSMALL LETTER S WITH CIRCUMFLEX;bCAPITAL LETTER S WITH CEDILLA
bSMALL LETTER S WITH CEDILLA;bCAPITAL LETTER S WITH CARON;bSMALL LETTER S WITH CARON
bCAPITAL LETTER T WITH CEDILLA;bSMALL LETTER T WITH CEDILLA;bCAPITAL LETTER T WITH CARON
bSMALL LETTER T WITH CARON;bCAPITAL LETTER T WITH STROKE;bSMALL LETTER T WITH STROKE
bCAPITAL LETTER U WITH TILDE;bSMALL LETTER U WITH TILDE;bCAPITAL LETTER U WITH MACRON
bSMALL LETTER U WITH MACRON;bCAPITAL LETTER U WITH BREVE;bSMALL LETTER U WITH BREVE
bCAPITAL LETTER U WITH RING ABOVE;bSMALL LETTER U WITH RING ABOVE
bCAPITAL LETTER U WITH DOUBLE ACUTE;bSMALL LETTER U WITH DOUBLE ACUTE
bCAPITAL LETTER U WITH OGONEK;bSMALL LETTER U WITH OGONEK;bCAPITAL LETTER W WITH CIRCUMFLEX
bSMALL LETTER W WITH CIRCUMFLEX;bCAPITAL LETTER Y WITH CIRCUMFLEX;bSMALL LETTER Y WITH CIRCUMFLEX
bCAPITAL LETTER Y WITH DIAERESIS;dZ WITH ACUTE;bSMALL LETTER Z WITH ACUTE
bCAPITAL LETTER Z WITH DOT ABOVE;bSMALL LETTER Z WITH DOT ABOVE;bCAPITAL LETTER Z WITH CARON
bSMALL LETTER Z WITH CARON;dLONG S;dB WITH STROKE;bCAPITAL LETTER B WITH HOOK;fTOPBAR
bSMALL LETTER B WITH TOPBAR;bCAPITAL LETTER TONE SIX;bSMALL LETTER TONE SIX;bCAPITAL LETTER OPEN O
dC WITH HOOK;bSMALL LETTER C WITH HOOK;bCAPITAL LETTER AFRICAN D;dD WITH HOOK;fTOPBAR
bSMALL LETTER D WITH TOPBAR;dTURNED DELTA;bCAPITAL LETTER REVERSED E;dSCHWA;dOPEN E;dF WITH HOOK
bSMALL LETTER F WITH HOOK;bCAPITAL LETTER G WITH HOOK;dGAMMA;bSMALL LETTER HV;bCAPITAL LETTER IOTA
dI WITH STROKE;dK WITH HOOK;bSMALL LETTER K WITH HOOK;dL WITH BAR;dLAMBDA WITH STROKE
bCAPITAL LETTER TURNED M;dN WITH LEFT HOOK;bSMALL LETTER N WITH LONG RIGHT LEG
bCAPITAL LETTER O WITH MIDDLE TILDE;fHORN;bSMALL LETTER O WITH HORN;bCAPITAL LETTER OI
bSMALL LETTER OI;bCAPITAL LETTER P WITH HOOK;bSMALL LETTER P WITH HOOK;bLETTER YR
bCAPITAL LETTER TONE TWO;bSMALL LETTER TONE TWO;bCAPITAL LETTER ESH;bLETTER REVERSED ESH LOOP
bSMALL LETTER T WITH PALATAL HOOK;bCAPITAL LETTER T WITH HOOK;bSMALL LETTER T WITH HOOK
bCAPITAL LETTER T WITH RETROFLEX HOOK;dU WITH HORN;bSMALL LETTER U WITH HORN
bCAPITAL LETTER UPSILON;dV WITH HOOK;dY WITH HOOK;bSMALL LETTER Y WITH HOOK
bCAPITAL LETTER Z WITH STROKE;bSMALL LETTER Z WITH STROKE;bCAPITAL LETTER EZH;eREVERSED
bSMALL LETTER EZH REVERSED;eWITH TAIL;bLETTER TWO WITH STROKE;bCAPITAL LETTER TONE FIVE
bSMALL LETTER TONE FIVE;bLETTER INVERTED GLOTTAL STOP WITH STROKE;cWYNN;cDENTAL CLICK
cLATERAL CLICK;cALVEOLAR CLICK;cRETROFLEX CLICK;bCAPITAL LETTER DZ WITH CARON
dD WITH SMALL LETTER Z WITH CARON;bSMALL LETTER DZ WITH CARON;bCAPITAL LETTER LJ
dL WITH SMALL LETTER J;bSMALL LETTER LJ;bCAPITAL LETTER NJ;dN WITH SMALL LETTER J;bSMALL LETTER NJ
bCAPITAL LETTER A WITH CARON;bSMALL LETTER A WITH CARON;bCAPITAL LETTER I WITH CARON
bSMALL LETTER I WITH CARON;bCAPITAL LETTER O WITH CARON;bSMALL LETTER O WITH CARON
bCAPITAL LETTER U WITH CARON;bSMALL LETTER U WITH CARON
bCAPITAL LETTER U WITH DIAERESIS AND MACRON;bSMALL LETTER U WITH DIAERESIS AND MACRON
bCAPITAL LETTER U WITH DIAERESIS AND ACUTE;bSMALL LETTER U WITH DIAERESIS AND ACUTE
bCAPITAL LETTER U WITH DIAERESIS AND CARON;bSMALL LETTER U WITH DIAERESIS AND CARON
bCAPITAL LETTER U WITH DIAERESIS AND GRAVE;bSMALL LETTER U WITH DIAERESIS AND GRAVE;dTURNED E
bCAPITAL LETTER A WITH DIAERESIS AND MACRON;bSMALL LETTER A WITH DIAERESIS AND MACRON
bCAPITAL LETTER A WITH DOT ABOVE AND MACRON;bSMALL LETTER A WITH DOT ABOVE AND MACRON
bCAPITAL LETTER AE WITH MACRON;bSMALL LETTER AE WITH MACRON;bCAPITAL LETTER G WITH STROKE
bSMALL LETTER G WITH STROKE;bCAPITAL LETTER G WITH CARON;bSMALL LETTER G WITH CARON
bCAPITAL LETTER K WITH CARON;bSMALL LETTER K WITH CARON;bCAPITAL LETTER O WITH OGONEK
bSMALL LETTER O WITH OGONEK;bCAPITAL LETTER O WITH OGONEK AND MACRON
bSMALL LETTER O WITH OGONEK AND MACRON;bCAPITAL LETTER EZH WITH CARON;bSMALL LETTER EZH WITH CARON
dJ WITH CARON;bCAPITAL LETTER DZ;dD WITH SMALL LETTER Z;bSMALL LETTER DZ
bCAPITAL LETTER G WITH ACUTE;bSMALL LETTER G WITH ACUTE;bCAPITAL LETTER HWAIR;dWYNN;dN WITH GRAVE
bSMALL LETTER N WITH GRAVE;bCAPITAL LETTER A WITH RING ABOVE AND ACUTE
bSMALL LETTER A WITH RING ABOVE AND ACUTE;bCAPITAL LETTER AE WITH ACUTE
bSMALL LETTER AE WITH ACUTE;bCAPITAL LETTER O WITH STROKE AND ACUTE
bSMALL LETTER O WITH STROKE AND ACUTE;bCAPITAL LETTER A WITH DOUBLE GRAVE
bSMALL LETTER A WITH DOUBLE GRAVE;bCAPITAL LETTER A WITH INVERTED BREVE
bSMALL LETTER A WITH INVERTED BREVE;bCAPITAL LETTER E WITH DOUBLE GRAVE
bSMALL LETTER E WITH DOUBLE GRAVE;bCAPITAL LETTER E WITH INVERTED BREVE
bSMALL LETTER E WITH INVERTED BREVE;bCAPITAL LETTER I WITH DOUBLE GRAVE
bSMALL LETTER I WITH DOUBLE GRAVE;bCAPITAL LETTER I WITH INVERTED BREVE
bSMALL LETTER I WITH INVERTED BREVE;bCAPITAL LETTER O WITH DOUBLE GRAVE
bSMALL LETTER O WITH DOUBLE GRAVE;bCAPITAL LETTER O WITH INVERTED BREVE
bSMALL LETTER O WITH INVERTED BREVE;bCAPITAL LETTER R WITH DOUBLE GRAVE
bSMALL LETTER R WITH DOUBLE GRAVE;bCAPITAL LETTER R WITH INVERTED BREVE
bSMALL LETTER R WITH INVERTED BREVE;bCAPITAL LETTER U WITH DOUBLE GRAVE
bSMALL LETTER U WITH DOUBLE GRAVE;bCAPITAL LETTER U WITH INVERTED BREVE
bSMALL LETTER U WITH INVERTED BREVE;bCAPITAL LETTER S WITH COMMA BELOW
bSMALL LETTER S WITH COMMA BELOW;bCAPITAL LETTER T WITH COMMA BELOW
bSMALL LETTER T WITH COMMA BELOW;bCAPITAL LETTER YOGH;bSMALL LETTER YOGH
bCAPITAL LETTER H WITH CARON;bSMALL LETTER H WITH CARON;bCAPITAL LETTER N WITH LONG RIGHT LEG
bSMALL LETTER D WITH CURL;bCAPITAL LETTER OU;bSMALL LETTER OU;bCAPITAL LETTER Z WITH HOOK
bSMALL LETTER Z WITH HOOK;bCAPITAL LETTER A WITH DOT ABOVE;bSMALL LETTER A WITH DOT ABOVE
bCAPITAL LETTER E WITH CEDILLA;bSMALL LETTER E WITH CEDILLA
bCAPITAL LETTER O WITH DIAERESIS AND MACRON;bSMALL LETTER O WITH DIAERESIS AND MACRON
bCAPITAL LETTER O WITH TILDE AND MACRON;bSMALL LETTER O WITH TILDE AND MACRON
bCAPITAL LETTER O WITH DOT ABOVE;bSMALL LETTER O WITH DOT ABOVE
bCAPITAL LETTER O WITH DOT ABOVE AND MACRON;bSMALL LETTER O WITH DOT ABOVE AND MACRON
bCAPITAL LETTER Y WITH MACRON;bSMALL LETTER Y WITH MACRON;dL WITH CURL;dN WITH CURL;dT WITH CURL
dDOTLESS J;dDB DIGRAPH;dQP DIGRAPH;bCAPITAL LETTER A WITH STROKE;dC WITH STROKE
bSMALL LETTER C WITH STROKE;bCAPITAL LETTER L WITH BAR;dT WITH DIAGONAL STROKE
bSMALL LETTER S WITH SWASH TAIL;dZ WITH SWASH TAIL;bCAPITAL LETTER GLOTTAL STOP
bSMALL LETTER GLOTTAL STOP;bCAPITAL LETTER B WITH STROKE;dU BAR;dTURNED V;dE WITH STROKE
bSMALL LETTER E WITH STROKE;bCAPITAL LETTER J WITH STROKE;bSMALL LETTER J WITH STROKE
bCAPITAL LETTER SMALL Q WITH HOOK TAIL;bSMALL LETTER Q WITH HOOK TAIL
bCAPITAL LETTER R WITH STROKE;bSMALL LETTER R WITH STROKE;bCAPITAL LETTER Y WITH STROKE
bSMALL LETTER Y WITH STROKE;dTURNED A;dALPHA;dTURNED ALPHA;dB WITH HOOK;dOPEN O;dC WITH CURL
dD WITH TAIL;fHOOK;dREVERSED E;dSCHWA;eWITH HOOK;dOPEN E;dREVERSED OPEN E;gWITH HOOK
dCLOSED REVERSED OPEN E;dDOTLESS J WITH STROKE;dG WITH HOOK;dSCRIPT G;bLETTER SMALL CAPITAL G
bSMALL LETTER GAMMA;dRAMS HORN;dTURNED H;dH WITH HOOK;dHENG WITH HOOK;dI WITH STROKE;dIOTA
bLETTER SMALL CAPITAL I;bSMALL LETTER L WITH MIDDLE TILDE;fBELT;fRETROFLEX HOOK;dLEZH;dTURNED M
fWITH LONG LEG;dM WITH HOOK;dN WITH LEFT HOOK;fRETROFLEX HOOK;bLETTER SMALL CAPITAL N
bSMALL LETTER BARRED O;bLETTER SMALL CAPITAL OE;bSMALL LETTER CLOSED OMEGA;dPHI;dTURNED R
fWITH LONG LEG;gHOOK;dR WITH LONG LEG;fTAIL;fFISHHOOK;dREVERSED R WITH FISHHOOK
bLETTER SMALL CAPITAL R;eINVERTED R;bSMALL LETTER S WITH HOOK;dESH;dDOTLESS J WITH STROKE AND HOOK
dSQUAT REVERSED ESH;dESH WITH CURL;dTURNED T;dT WITH RETROFLEX HOOK;dU BAR;dUPSILON;dV WITH HOOK
dTURNED V;eW;eY;bLETTER SMALL CAPITAL Y;bSMALL LETTER Z WITH RETROFLEX HOOK;fCURL;dEZH;eWITH CURL
bLETTER GLOTTAL STOP;cPHARYNGEAL VOICED FRICATIVE;cINVERTED GLOTTAL STOP;cSTRETCHED C
cBILABIAL CLICK;cSMALL CAPITAL B;bSMALL LETTER CLOSED OPEN E;bLETTER SMALL CAPITAL G WITH HOOK;eH
bSMALL LETTER J WITH CROSSED-TAIL;dTURNED K;bLETTER SMALL CAPITAL L;bSMALL LETTER Q WITH HOOK
bLETTER GLOTTAL STOP WITH STROKE;cREVERSED GLOTTAL STOP WITH STROKE;bSMALL LETTER DZ DIGRAPH
dDEZH DIGRAPH;dDZ DIGRAPH WITH CURL;dTS DIGRAPH;dTESH DIGRAPH;dTC DIGRAPH WITH CURL;dFENG DIGRAPH
dLS DIGRAPH;dLZ DIGRAPH;bLETTER BILABIAL PERCUSSIVE;cBIDENTAL PERCUSSIVE
bSMALL LETTER TURNED H WITH FISHHOOK;hAND TAIL;aMODIFIER LETTER SMALL H;eWITH HOOK;dJ;dR;dTURNED R
fWITH HOOK;dCAPITAL INVERTED R;dW;dY;cPRIME;cDOUBLE PRIME;cTURNED COMMA;cAPOSTROPHE
cREVERSED COMMA;cRIGHT HALF RING;cLEFT HALF RING;cGLOTTAL STOP;cREVERSED GLOTTAL STOP
cLEFT ARROWHEAD;cRIGHT ARROWHEAD;cUP ARROWHEAD;cDOWN ARROWHEAD;cCIRCUMFLEX ACCENT;aCARON
aMODIFIER LETTER VERTICAL LINE;cMACRON;cACUTE ACCENT;cGRAVE ACCENT;cLOW VERTICAL LINE;dMACRON
dGRAVE ACCENT;dACUTE ACCENT;cTRIANGULAR COLON;cHALF TRIANGULAR COLON;cCENTRED RIGHT HALF RING
dLEFT HALF RING;cUP TACK;cDOWN TACK;cPLUS SIGN;cMINUS SIGN;aBREVE;aDOT ABOVE;aRING ABOVE;aOGONEK
aSMALL TILDE;aDOUBLE ACUTE ACCENT;aMODIFIER LETTER RHOTIC HOOK;cCROSS ACCENT;cSMALL GAMMA;dL;dS;dX
dREVERSED GLOTTAL STOP;cEXTRA-HIGH TONE BAR;cHIGH TONE BAR;cMID TONE BAR;cLOW TONE BAR
cEXTRA-LOW TONE BAR;cYIN DEPARTING TONE MARK;cYANG DEPARTING TONE MARK;cVOICING;cUNASPIRATED
cDOUBLE APOSTROPHE;cLOW DOWN ARROWHEAD;dUP ARROWHEAD;dLEFT ARROWHEAD;dRIGHT ARROWHEAD;dRING
cMIDDLE GRAVE ACCENT;dDOUBLE GRAVE ACCENT;eACUTE ACCENT;cLOW TILDE;cRAISED COLON;cBEGIN HIGH TONE
cEND HIGH TONE;cBEGIN LOW TONE;cEND LOW TONE;cSHELF;cOPEN SHELF;cLOW LEFT ARROW
aCOMBINING GRAVE ACCENT;bACUTE ACCENT;bCIRCUMFLEX ACCENT;bTILDE;bMACRON;bOVERLINE;bBREVE
bDOT ABOVE;bDIAERESIS;bHOOK ABOVE;bRING ABOVE;bDOUBLE ACUTE ACCENT;bCARON;bVERTICAL LINE ABOVE
bDOUBLE VERTICAL LINE ABOVE;cGRAVE ACCENT;bCANDRABINDU;bINVERTED BREVE;bTURNED COMMA ABOVE
bCOMMA ABOVE;bREVERSED COMMA ABOVE;bCOMMA ABOVE RIGHT;bGRAVE ACCENT BELOW;bACUTE ACCENT BELOW
bLEFT TACK BELOW;bRIGHT TACK BELOW;bLEFT ANGLE ABOVE;bHORN;bLEFT HALF RING BELOW;bUP TACK BELOW
bDOWN TACK BELOW;bPLUS SIGN BELOW;bMINUS SIGN BELOW;bPALATALIZED HOOK BELOW;bRETROFLEX HOOK BELOW
bDOT BELOW;bDIAERESIS BELOW;bRING BELOW;bCOMMA BELOW;bCEDILLA;bOGONEK;bVERTICAL LINE BELOW
bBRIDGE BELOW;bINVERTED DOUBLE ARCH BELOW;bCARON BELOW;bCIRCUMFLEX ACCENT BELOW;bBREVE BELOW
bINVERTED BREVE BELOW;bTILDE BELOW;bMACRON BELOW;bLOW LINE;bDOUBLE LOW LINE;bTILDE OVERLAY
bSHORT STROKE OVERLAY;bLONG STROKE OVERLAY;bSHORT SOLIDUS OVERLAY;bLONG SOLIDUS OVERLAY
bRIGHT HALF RING BELOW;bINVERTED BRIDGE BELOW;bSQUARE BELOW;bSEAGULL BELOW;bX ABOVE
bVERTICAL TILDE;bDOUBLE OVERLINE;bGRAVE TONE MARK;bACUTE TONE MARK;bGREEK PERISPOMENI;cKORONIS
cDIALYTIKA TONOS;cYPOGEGRAMMENI;bBRIDGE ABOVE;bEQUALS SIGN BELOW;bDOUBLE VERTICAL LINE BELOW
bLEFT ANGLE BELOW;bNOT TILDE ABOVE;bHOMOTHETIC ABOVE;bALMOST EQUAL TO ABOVE
bLEFT RIGHT ARROW BELOW;bUPWARDS ARROW BELOW;bGRAPHEME JOINER;bRIGHT ARROWHEAD ABOVE
bLEFT HALF RING ABOVE;bFERMATA;bX BELOW;bLEFT ARROWHEAD BELOW;bRIGHT ARROWHEAD BELOW
dAND UP ARROWHEAD BELOW;cHALF RING ABOVE;bDOT ABOVE RIGHT;bASTERISK BELOW;bDOUBLE RING BELOW
bZIGZAG ABOVE;bDOUBLE BREVE BELOW;cBREVE;cMACRON;dBELOW;cTILDE;cINVERTED BREVE
cRIGHTWARDS ARROW BELOW;bLATIN SMALL LETTER A;eE;eI;eO;eU;eC;eD;eH;eM;eR;eT;eV;eX
aGREEK CAPITAL LETTER HETA;bSMALL LETTER HETA;bCAPITAL LETTER ARCHAIC SAMPI
bSMALL LETTER ARCHAIC SAMPI;bNUMERAL SIGN;bLOWER NUMERAL SIGN;bCAPITAL LETTER PAMPHYLIAN DIGAMMA
bSMALL LETTER PAMPHYLIAN DIGAMMA;@37A;bYPOGEGRAMMENI;bSMALL REVERSED LUNATE SIGMA SYMBOL
cDOTTED LUNATE SIGMA SYMBOL;cREVERSED DOTTED LUNATE SIGMA SYMBOL;bQUESTION MARK
bCAPITAL LETTER YOT;@384;bTONOS;bDIALYTIKA TONOS;bCAPITAL LETTER ALPHA WITH TONOS;bANO TELEIA
bCAPITAL LETTER EPSILON WITH TONOS;dETA WITH TONOS;dIOTA WITH TONOS;@38C;dOMICRON WITH TONOS;@38E
dUPSILON WITH TONOS;dOMEGA WITH TONOS;bSMALL LETTER IOTA WITH DIALYTIKA AND TONOS
bCAPITAL LETTER ALPHA;dBETA;dGAMMA;dDELTA;dEPSILON;dZETA;dETA;dTHETA;dIOTA;dKAPPA;dLAMDA;dMU;dNU
dXI;dOMICRON;dPI;dRHO;@3A3;dSIGMA;dTAU;dUPSILON;dPHI;dCHI;dPSI;dOMEGA;dIOTA WITH DIALYTIKA
dUPSILON WITH DIALYTIKA;bSMALL LETTER ALPHA WITH TONOS;dEPSILON WITH TONOS;dETA WITH TONOS
dIOTA WITH TONOS;dUPSILON WITH DIALYTIKA AND TONOS;dALPHA;dBETA;dGAMMA;dDELTA;dEPSILON;dZETA;dETA
dTHETA;dIOTA;dKAPPA;dLAMDA;dMU;dNU;dXI;dOMICRON;dPI;dRHO;dFINAL SIGMA;dSIGMA;dTAU;dUPSILON;dPHI
dCHI;dPSI;dOMEGA;dIOTA WITH DIALYTIKA;dUPSILON WITH DIALYTIKA;dOMICRON WITH TONOS
dUPSILON WITH TONOS;dOMEGA WITH TONOS;bCAPITAL KAI SYMBOL;bBETA SYMBOL;bTHETA SYMBOL
bUPSILON WITH HOOK SYMBOL;dACUTE AND HOOK SYMBOL;dDIAERESIS AND HOOK SYMBOL;bPHI SYMBOL;bPI SYMBOL
bKAI SYMBOL;bLETTER ARCHAIC KOPPA;bSMALL LETTER ARCHAIC KOPPA;bLETTER STIGMA;bSMALL LETTER STIGMA
bLETTER DIGAMMA;bSMALL LETTER DIGAMMA;bLETTER KOPPA;bSMALL LETTER KOPPA;bLETTER SAMPI
bSMALL LETTER SAMPI;aCOPTIC CAPITAL LETTER SHEI;bSMALL LETTER SHEI;bCAPITAL LETTER FEI
bSMALL LETTER FEI;bCAPITAL LETTER KHEI;bSMALL LETTER KHEI;bCAPITAL LETTER HORI;bSMALL LETTER HORI
bCAPITAL LETTER GANGIA;bSMALL LETTER GANGIA;bCAPITAL LETTER SHIMA;bSMALL LETTER SHIMA
bCAPITAL LETTER DEI;bSMALL LETTER DEI;aGREEK KAPPA SYMBOL;bRHO SYMBOL;bLUNATE SIGMA SYMBOL
bLETTER YOT;bCAPITAL THETA SYMBOL;bLUNATE EPSILON SYMBOL;bREVERSED LUNATE EPSILON SYMBOL
bCAPITAL LETTER SHO;bSMALL LETTER SHO;bCAPITAL LUNATE SIGMA SYMBOL;cLETTER SAN;bSMALL LETTER SAN
bRHO WITH STROKE SYMBOL;bCAPITAL REVERSED LUNATE SIGMA SYMBOL;cDOTTED LUNATE SIGMA SYMBOL
cREVERSED DOTTED LUNATE SIGMA SYMBOL;aCYRILLIC CAPITAL LETTER IE WITH GRAVE;dIO;dDJE;dGJE
dUKRAINIAN IE;dDZE;dBYELORUSSIAN-UKRAINIAN I;dYI;dJE;dLJE;dNJE;dTSHE;dKJE;dI WITH GRAVE;dSHORT U
dDZHE;dA;dBE;dVE;dGHE;dDE;dIE;dZHE;dZE;dI;dSHORT I;dKA;dEL;dEM;dEN;dO;dPE;dER;dES;dTE;dU;dEF;dHA
dTSE;dCHE;dSHA;dSHCHA;dHARD SIGN;dYERU;dSOFT SIGN;dE;dYU;dYA;bSMALL LETTER A;dBE;dVE;dGHE;dDE;dIE
dZHE;dZE;dI;dSHORT I;dKA;dEL;dEM;dEN;dO;dPE;dER;dES;dTE;dU;dEF;dHA;dTSE;dCHE;dSHA;dSHCHA
dHARD SIGN;dYERU;dSOFT SIGN;dE;dYU;dYA;dIE WITH GRAVE;dIO;dDJE;dGJE;dUKRAINIAN IE;dDZE
dBYELORUSSIAN-UKRAINIAN I;dYI;dJE;dLJE;dNJE;dTSHE;dKJE;dI WITH GRAVE;dSHORT U;dDZHE
bCAPITAL LETTER OMEGA;bSMALL LETTER OMEGA;bCAPITAL LETTER YAT;bSMALL LETTER YAT
bCAPITAL LETTER IOTIFIED E;bSMALL LETTER IOTIFIED E;bCAPITAL LETTER LITTLE YUS
bSMALL LETTER LITTLE YUS;bCAPITAL LETTER IOTIFIED LITTLE YUS;bSMALL LETTER IOTIFIED LITTLE YUS
bCAPITAL LETTER BIG YUS;bSMALL LETTER BIG YUS;bCAPITAL LETTER IOTIFIED BIG YUS
bSMALL LETTER IOTIFIED BIG YUS;bCAPITAL LETTER KSI;bSMALL LETTER KSI;bCAPITAL LETTER PSI
bSMALL LETTER PSI;bCAPITAL LETTER FITA;bSMALL LETTER FITA;bCAPITAL LETTER IZHITSA
bSMALL LETTER IZHITSA;bCAPITAL LETTER IZHITSA WITH DOUBLE GRAVE ACCENT
bSMALL LETTER IZHITSA WITH DOUBLE GRAVE ACCENT;bCAPITAL LETTER UK;bSMALL LETTER UK
bCAPITAL LETTER ROUND OMEGA;bSMALL LETTER ROUND OMEGA;bCAPITAL LETTER OMEGA WITH TITLO
bSMALL LETTER OMEGA WITH TITLO;bCAPITAL LETTER OT;bSMALL LETTER OT;bCAPITAL LETTER KOPPA
bSMALL LETTER KOPPA;bTHOUSANDS SIGN;aCOMBINING CYRILLIC TITLO;cPALATALIZATION;cDASIA PNEUMATA
cPSILI PNEUMATA;cPOKRYTIE;cHUNDRED THOUSANDS SIGN;cMILLIONS SIGN
aCYRILLIC CAPITAL LETTER SHORT I WITH TAIL;bSMALL LETTER SHORT I WITH TAIL
bCAPITAL LETTER SEMISOFT SIGN;bSMALL LETTER SEMISOFT SIGN;bCAPITAL LETTER ER WITH TICK
bSMALL LETTER ER WITH TICK;bCAPITAL LETTER GHE WITH UPTURN;bSMALL LETTER GHE WITH UPTURN
bCAPITAL LETTER GHE WITH STROKE;bSMALL LETTER GHE WITH STROKE;bCAPITAL LETTER GHE WITH MIDDLE HOOK
bSMALL LETTER GHE WITH MIDDLE HOOK;bCAPITAL LETTER ZHE WITH DESCENDER
bSMALL LETTER ZHE WITH DESCENDER;bCAPITAL LETTER ZE WITH DESCENDER;bSMALL LETTER ZE WITH DESCENDER
bCAPITAL LETTER KA WITH DESCENDER;bSMALL LETTER KA WITH DESCENDER
bCAPITAL LETTER KA WITH VERTICAL STROKE;bSMALL LETTER KA WITH VERTICAL STROKE
bCAPITAL LETTER KA WITH STROKE;bSMALL LETTER KA WITH STROKE;bCAPITAL LETTER BASHKIR KA
bSMALL LETTER BASHKIR KA;bCAPITAL LETTER EN WITH DESCENDER;bSMALL LETTER EN WITH DESCENDER
bCAPITAL LIGATURE EN GHE;bSMALL LIGATURE EN GHE;bCAPITAL LETTER PE WITH MIDDLE HOOK
bSMALL LETTER PE WITH MIDDLE HOOK;bCAPITAL LETTER ABKHASIAN HA;bSMALL LETTER ABKHASIAN HA
bCAPITAL LETTER ES WITH DESCENDER;bSMALL LETTER ES WITH DESCENDER
bCAPITAL LETTER TE WITH DESCENDER;bSMALL LETTER TE WITH DESCENDER;bCAPITAL LETTER STRAIGHT U
bSMALL LETTER STRAIGHT U;bCAPITAL LETTER STRAIGHT U WITH STROKE
bSMALL LETTER STRAIGHT U WITH STROKE;bCAPITAL LETTER HA WITH DESCENDER
bSMALL LETTER HA WITH DESCENDER;bCAPITAL LIGATURE TE TSE;bSMALL LIGATURE TE TSE
bCAPITAL LETTER CHE WITH DESCENDER;bSMALL LETTER CHE WITH DESCENDER
bCAPITAL LETTER CHE WITH VERTICAL STROKE;bSMALL LETTER CHE WITH VERTICAL STROKE
bCAPITAL LETTER SHHA;bSMALL LETTER SHHA;bCAPITAL LETTER ABKHASIAN CHE;bSMALL LETTER ABKHASIAN CHE
bCAPITAL LETTER ABKHASIAN CHE WITH DESCENDER;bSMALL LETTER ABKHASIAN CHE WITH DESCENDER
bLETTER PALOCHKA;bCAPITAL LETTER ZHE WITH BREVE;bSMALL LETTER ZHE WITH BREVE
bCAPITAL LETTER KA WITH HOOK;bSMALL LETTER KA WITH HOOK;bCAPITAL LETTER EL WITH TAIL
bSMALL LETTER EL WITH TAIL;bCAPITAL LETTER EN WITH HOOK;bSMALL LETTER EN WITH HOOK
bCAPITAL LETTER EN WITH TAIL;bSMALL LETTER EN WITH TAIL;bCAPITAL LETTER KHAKASSIAN CHE
bSMALL LETTER KHAKASSIAN CHE;bCAPITAL LETTER EM WITH TAIL;bSMALL LETTER EM WITH TAIL;dPALOCHKA
bCAPITAL LETTER A WITH BREVE;bSMALL LETTER A WITH BREVE;bCAPITAL LETTER A WITH DIAERESIS
bSMALL LETTER A WITH DIAERESIS;bCAPITAL LIGATURE A IE;bSMALL LIGATURE A IE
bCAPITAL LETTER IE WITH BREVE;bSMALL LETTER IE WITH BREVE;bCAPITAL LETTER SCHWA
bSMALL LETTER SCHWA;bCAPITAL LETTER SCHWA WITH DIAERESIS;bSMALL LETTER SCHWA WITH DIAERESIS
bCAPITAL LETTER ZHE WITH DIAERESIS;bSMALL LETTER ZHE WITH DIAERESIS
bCAPITAL LETTER ZE WITH DIAERESIS;bSMALL LETTER ZE WITH DIAERESIS;bCAPITAL LETTER ABKHASIAN DZE
bSMALL LETTER ABKHASIAN DZE;bCAPITAL LETTER I WITH MACRON;bSMALL LETTER I WITH MACRON
bCAPITAL LETTER I WITH DIAERESIS;bSMALL LETTER I WITH DIAERESIS;bCAPITAL LETTER O WITH DIAERESIS
bSMALL LETTER O WITH DIAERESIS;bCAPITAL LETTER BARRED O;bSMALL LETTER BARRED O
bCAPITAL LETTER BARRED O WITH DIAERESIS;bSMALL LETTER BARRED O WITH DIAERESIS
bCAPITAL LETTER E WITH DIAERESIS;bSMALL LETTER E WITH DIAERESIS;bCAPITAL LETTER U WITH MACRON
bSMALL LETTER U WITH MACRON;bCAPITAL LETTER U WITH DIAERESIS;bSMALL LETTER U WITH DIAERESIS
bCAPITAL LETTER U WITH DOUBLE ACUTE;bSMALL LETTER U WITH DOUBLE ACUTE
bCAPITAL LETTER CHE WITH DIAERESIS;bSMALL LETTER CHE WITH DIAERESIS
bCAPITAL LETTER GHE WITH DESCENDER;bSMALL LETTER GHE WITH DESCENDER
bCAPITAL LETTER YERU WITH DIAERESIS;bSMALL LETTER YERU WITH DIAERESIS
bCAPITAL LETTER GHE WITH STROKE AND HOOK;bSMALL LETTER GHE WITH STROKE AND HOOK
bCAPITAL LETTER HA WITH HOOK;bSMALL LETTER HA WITH HOOK;bCAPITAL LETTER HA WITH STROKE
bSMALL LETTER HA WITH STROKE;bCAPITAL LETTER KOMI DE;bSMALL LETTER KOMI DE
bCAPITAL LETTER KOMI DJE;bSMALL LETTER KOMI DJE;bCAPITAL LETTER KOMI ZJE;bSMALL LETTER KOMI ZJE
bCAPITAL LETTER KOMI DZJE;bSMALL LETTER KOMI DZJE;bCAPITAL LETTER KOMI LJE;bSMALL LETTER KOMI LJE
bCAPITAL LETTER KOMI NJE;bSMALL LETTER KOMI NJE;bCAPITAL LETTER KOMI SJE;bSMALL LETTER KOMI SJE
bCAPITAL LETTER KOMI TJE;bSMALL LETTER KOMI TJE;bCAPITAL LETTER REVERSED ZE
bSMALL LETTER REVERSED ZE;bCAPITAL LETTER EL WITH HOOK;bSMALL LETTER EL WITH HOOK
bCAPITAL LETTER LHA;bSMALL LETTER LHA;bCAPITAL LETTER RHA;bSMALL LETTER RHA;bCAPITAL LETTER YAE
bSMALL LETTER YAE;bCAPITAL LETTER QA;bSMALL LETTER QA;bCAPITAL LETTER WE;bSMALL LETTER WE
bCAPITAL LETTER ALEUT KA;bSMALL LETTER ALEUT KA;bCAPITAL LETTER EL WITH MIDDLE HOOK
bSMALL LETTER EL WITH MIDDLE HOOK;bCAPITAL LETTER EN WITH MIDDLE HOOK
bSMALL LETTER EN WITH MIDDLE HOOK;bCAPITAL LETTER PE WITH DESCENDER
bSMALL LETTER PE WITH DESCENDER;bCAPITAL LETTER SHHA WITH DESCENDER
bSMALL LETTER SHHA WITH DESCENDER;bCAPITAL LETTER EN WITH LEFT HOOK
bSMALL LETTER EN WITH LEFT HOOK;bCAPITAL LETTER DZZHE;bSMALL LETTER DZZHE;bCAPITAL LETTER DCHE
bSMALL LETTER DCHE;bCAPITAL LETTER EL WITH DESCENDER;bSMALL LETTER EL WITH DESCENDER;@531
aARMENIAN CAPITAL LETTER AYB;dBEN;dGIM;dDA;dECH;dZA;dEH;dET;dTO;dZHE;dINI;dLIWN;dXEH;dCA;dKEN;dHO
dJA;dGHAD;dCHEH;dMEN;dYI;dNOW;dSHA;dVO;dCHA;dPEH;dJHEH;dRA;dSEH;dVEW;dTIWN;dREH;dCO;dYIWN;dPIWR
dKEH;dOH;dFEH;@559;bMODIFIER LETTER LEFT HALF RING;bAPOSTROPHE;bEMPHASIS MARK;bEXCLAMATION MARK
bCOMMA;bQUESTION MARK;bABBREVIATION MARK;bSMALL LETTER TURNED AYB;dAYB;dBEN;dGIM;dDA;dECH;dZA;dEH
dET;dTO;dZHE;dINI;dLIWN;dXEH;dCA;dKEN;dHO;dJA;dGHAD;dCHEH;dMEN;dYI;dNOW;dSHA;dVO;dCHA;dPEH;dJHEH
dRA;dSEH;dVEW;dTIWN;dREH;dCO;dYIWN;dPIWR;dKEH;dOH;dFEH;cLIGATURE ECH YIWN;cLETTER YI WITH STROKE
bFULL STOP;bHYPHEN;@58D;aRIGHT-FACING ARMENIAN ETERNITY SIGN;aLEFT-FACING ARMENIAN ETERNITY SIGN
aARMENIAN DRAM SIGN;@591;aHEBREW ACCENT ETNAHTA;cSEGOL;cSHALSHELET;cZAQEF QATAN;dGADOL;cTIPEHA
cREVIA;cZARQA;cPASHTA;cYETIV;cTEVIR;cGERESH;dMUQDAM;cGERSHAYIM;cQARNEY PARA;cTELISHA GEDOLA;cPAZER
cATNAH HAFUKH;cMUNAH;cMAHAPAKH;cMERKHA;dKEFULA;cDARGA;cQADMA;cTELISHA QETANA;cYERAH BEN YOMO;cOLE
cILUY;cDEHI;cZINOR;bMARK MASORA CIRCLE;bPOINT SHEVA;cHATAF SEGOL;dPATAH;dQAMATS;cHIRIQ;cTSERE
cSEGOL;cPATAH;cQAMATS;cHOLAM;dHASER FOR VAV;cQUBUTS;cDAGESH OR MAPIQ;cMETEG;bPUNCTUATION MAQAF
bPOINT RAFE;bPUNCTUATION PASEQ;bPOINT SHIN DOT;cSIN DOT;bPUNCTUATION SOF PASUQ;bMARK UPPER DOT
cLOWER DOT;bPUNCTUATION NUN HAFUKHA;bPOINT QAMATS QATAN;@5D0;bLETTER ALEF;cBET;cGIMEL;cDALET;cHE
cVAV;cZAYIN;cHET;cTET;cYOD;cFINAL KAF;cKAF;cLAMED;cFINAL MEM;cMEM;cFINAL NUN;cNUN;cSAMEKH;cAYIN
cFINAL PE;cPE;cFINAL TSADI;cTSADI;cQOF;cRESH;cSHIN;cTAV;@5EF;bYOD TRIANGLE
bLIGATURE YIDDISH DOUBLE VAV;dVAV YOD;dDOUBLE YOD;bPUNCTUATION GERESH;cGERSHAYIM;@600
aARABIC NUMBER SIGN;bSIGN SANAH;bFOOTNOTE MARKER;bSIGN SAFHA;cSAMVAT;bNUMBER MARK ABOVE
aARABIC-INDIC CUBE ROOT;bFOURTH ROOT;aARABIC RAY;aARABIC-INDIC PER MILLE SIGN;cTEN THOUSAND SIGN
aAFGHANI SIGN;aARABIC COMMA;bDATE SEPARATOR;bPOETIC VERSE SIGN;bSIGN MISRA
cSALLALLAHOU ALAYHE WASSALLAM;cALAYHE ASSALLAM;cRAHMATULLAH ALAYHE;cRADI ALLAHOU ANHU;cTAKHALLUS
bSMALL HIGH TAH;dLIGATURE ALEF WITH LAM WITH YEH;dZAIN;cFATHA;cDAMMA;cKASRA;bSEMICOLON
bLETTER MARK;bEND OF TEXT MARK;bTRIPLE DOT PUNCTUATION MARK;bQUESTION MARK;bLETTER KASHMIRI YEH
cHAMZA;cALEF WITH MADDA ABOVE;eHAMZA ABOVE;cWAW WITH HAMZA ABOVE;cALEF WITH HAMZA BELOW
cYEH WITH HAMZA ABOVE;cALEF;cBEH;cTEH MARBUTA;cTEH;cTHEH;cJEEM;cHAH;cKHAH;cDAL;cTHAL;cREH;cZAIN
cSEEN;cSHEEN;cSAD;cDAD;cTAH;cZAH;cAIN;cGHAIN;cKEHEH WITH TWO DOTS ABOVE;eTHREE DOTS BELOW
cFARSI YEH WITH INVERTED V;fTWO DOTS ABOVE;fTHREE DOTS ABOVE;bTATWEEL;bLETTER FEH;cQAF;cKAF;cLAM
cMEEM;cNOON;cHEH;cWAW;cALEF MAKSURA;cYEH;bFATHATAN;bDAMMATAN;bKASRATAN;bFATHA;bDAMMA;bKASRA
bSHADDA;bSUKUN;bMADDAH ABOVE;bHAMZA ABOVE;cBELOW;bSUBSCRIPT ALEF;bINVERTED DAMMA;bMARK NOON GHUNNA
bZWARAKAY;bVOWEL SIGN SMALL V ABOVE;dINVERTED SMALL V ABOVE;dDOT BELOW;bREVERSED DAMMA
bFATHA WITH TWO DOTS;bWAVY HAMZA BELOW;aARABIC-INDIC DIGIT ZERO;cONE;cTWO;cTHREE;cFOUR;cFIVE;cSIX
cSEVEN;cEIGHT;cNINE;aARABIC PERCENT SIGN;bDECIMAL SEPARATOR;bTHOUSANDS SEPARATOR
bFIVE POINTED STAR;bLETTER DOTLESS BEH;dQAF;cSUPERSCRIPT ALEF;cALEF WASLA;dWITH WAVY HAMZA ABOVE
gBELOW;cHIGH HAMZA;eALEF;eWAW;cU WITH HAMZA ABOVE;cHIGH HAMZA YEH;cTTEH;cTTEHEH;cBEEH
cTEH WITH RING;eTHREE DOTS ABOVE DOWNWARDS;cPEH;cTEHEH;cBEHEH;cHAH WITH HAMZA ABOVE
eTWO DOTS VERTICAL ABOVE;cNYEH;cDYEH;cHAH WITH THREE DOTS ABOVE;cTCHEH;cTCHEHEH;cDDAL
cDAL WITH RING;eDOT BELOW;gAND SMALL TAH;cDAHAL;cDDAHAL;cDUL;cDAL WITH THREE DOTS ABOVE DOWNWARDS
eFOUR DOTS ABOVE;cRREH;cREH WITH SMALL V;eRING;eDOT BELOW;eSMALL V BELOW;eDOT BELOW AND DOT ABOVE
eTWO DOTS ABOVE;cJEH;cREH WITH FOUR DOTS ABOVE;cSEEN WITH DOT BELOW AND DOT ABOVE
eTHREE DOTS BELOW;hAND THREE DOTS ABOVE;cSAD WITH TWO DOTS BELOW;eTHREE DOTS ABOVE
cTAH WITH THREE DOTS ABOVE;cAIN WITH THREE DOTS ABOVE;cDOTLESS FEH;cFEH WITH DOT MOVED BELOW
fBELOW;cVEH;cFEH WITH THREE DOTS BELOW;cPEHEH;cQAF WITH DOT ABOVE;eTHREE DOTS ABOVE;cKEHEH
cSWASH KAF;cKAF WITH RING;eDOT ABOVE;cNG;cKAF WITH THREE DOTS BELOW;cGAF;dWITH RING;cNGOEH
cGAF WITH TWO DOTS BELOW;cGUEH;cGAF WITH THREE DOTS ABOVE;cLAM WITH SMALL V;eDOT ABOVE
eTHREE DOTS ABOVE;gBELOW;cNOON WITH DOT BELOW;dGHUNNA;cRNOON;cNOON WITH RING;eTHREE DOTS ABOVE
cHEH DOACHASHMEE;cTCHEH WITH DOT ABOVE;cHEH WITH YEH ABOVE;dGOAL;eWITH HAMZA ABOVE
cTEH MARBUTA GOAL;cWAW WITH RING;cKIRGHIZ OE;cOE;cU;cYU;cKIRGHIZ YU;cWAW WITH TWO DOTS ABOVE;cVE
cFARSI YEH;cYEH WITH TAIL;eSMALL V;cWAW WITH DOT ABOVE;cE;cYEH WITH THREE DOTS BELOW;dBARREE
eWITH HAMZA ABOVE;bFULL STOP;bLETTER AE;bSMALL HIGH LIGATURE SAD WITH LAM WITH ALEF MAKSURA
eQAF WITH LAM WITH ALEF MAKSURA;dMEEM INITIAL FORM;dLAM ALEF;dJEEM;dTHREE DOTS;dSEEN;bEND OF AYAH
bSTART OF RUB EL HIZB;bSMALL HIGH ROUNDED ZERO;dUPRIGHT RECTANGULAR ZERO;dDOTLESS HEAD OF KHAH
dMEEM ISOLATED FORM;cLOW SEEN;cHIGH MADDA;cWAW;cYEH;cHIGH YEH;dNOON;bPLACE OF SAJDAH
bEMPTY CENTRE LOW STOP;dHIGH STOP;bROUNDED HIGH STOP WITH FILLED CENTRE;bSMALL LOW MEEM
bLETTER DAL WITH INVERTED V;cREH WITH INVERTED V;aEXTENDED ARABIC-INDIC DIGIT ZERO;dONE;dTWO
dTHREE;dFOUR;dFIVE;dSIX;dSEVEN;dEIGHT;dNINE;aARABIC LETTER SHEEN WITH DOT BELOW
cDAD WITH DOT BELOW;cGHAIN WITH DOT BELOW;bSIGN SINDHI AMPERSAND;dPOSTPOSITION MEN
bLETTER HEH WITH INVERTED V;aSYRIAC END OF PARAGRAPH;bSUPRALINEAR FULL STOP;bSUBLINEAR FULL STOP
bSUPRALINEAR COLON;bSUBLINEAR COLON;bHORIZONTAL COLON;bCOLON SKEWED LEFT;dRIGHT
bSUPRALINEAR COLON SKEWED LEFT;bSUBLINEAR COLON SKEWED RIGHT;bCONTRACTION;bHARKLEAN OBELUS
cMETOBELUS;cASTERISCUS;@70F;bABBREVIATION MARK;bLETTER ALAPH;cSUPERSCRIPT ALAPH;cBETH;cGAMAL
dGARSHUNI;cDALATH;cDOTLESS DALATH RISH;cHE;cWAW;cZAIN;cHETH;cTETH;dGARSHUNI;cYUDH;dHE;cKAPH
cLAMADH;cMIM;cNUN;cSEMKATH;cFINAL SEMKATH;cE;cPE;cREVERSED PE;cSADHE;cQAPH;cRISH;cSHIN;cTAW
cPERSIAN BHETH;dGHAMAL;dDHALATH;bPTHAHA ABOVE;cBELOW;cDOTTED;bZQAPHA ABOVE;cBELOW;cDOTTED
bRBASA ABOVE;cBELOW;bDOTTED ZLAMA HORIZONTAL;dANGULAR;bHBASA ABOVE;cBELOW;bHBASA-ESASA DOTTED
bESASA ABOVE;cBELOW;bRWAHA;bFEMININE DOT;bQUSHSHAYA;bRUKKAKHA;bTWO VERTICAL DOTS ABOVE;eBELOW
bTHREE DOTS ABOVE;dBELOW;bOBLIQUE LINE ABOVE;dBELOW;bMUSIC;bBARREKH;@74D;bLETTER SOGDIAN ZHAIN
dKHAPH;dFE;aARABIC LETTER BEH WITH THREE DOTS HORIZONTALLY BELOW;eDOT BELOW AND THREE DOTS ABOVE
eTHREE DOTS POINTING UPWARDS BELOW;jAND TWO DOTS ABOVE;eTWO DOTS BELOW AND DOT ABOVE
eINVERTED SMALL V BELOW;eSMALL V;cHAH WITH TWO DOTS ABOVE;eTHREE DOTS POINTING UPWARDS BELOW
cDAL WITH TWO DOTS VERTICALLY BELOW AND SMALL TAH;eINVERTED SMALL V BELOW;cREH WITH STROKE
cSEEN WITH FOUR DOTS ABOVE;cAIN WITH TWO DOTS ABOVE;eTHREE DOTS POINTING DOWNWARDS ABOVE
eTWO DOTS VERTICALLY ABOVE;cFEH WITH TWO DOTS BELOW;eTHREE DOTS POINTING UPWARDS BELOW
cKEHEH WITH DOT ABOVE;eTHREE DOTS ABOVE;gPOINTING UPWARDS BELOW;cMEEM WITH DOT ABOVE;fBELOW
cNOON WITH TWO DOTS BELOW;eSMALL TAH;fV;cLAM WITH BAR;cREH WITH TWO DOTS VERTICALLY ABOVE
eHAMZA ABOVE;cSEEN WITH TWO DOTS VERTICALLY ABOVE;cHAH WITH SMALL ARABIC LETTER TAH BELOW
iAND TWO DOTS;cSEEN WITH SMALL ARABIC LETTER TAH AND TWO DOTS
cREH WITH SMALL ARABIC LETTER TAH AND TWO DOTS;cHAH WITH SMALL ARABIC LETTER TAH ABOVE
cALEF WITH EXTENDED ARABIC-INDIC DIGIT TWO ABOVE;hTHREE ABOVE
cFARSI YEH WITH EXTENDED ARABIC-INDIC DIGIT TWO ABOVE;iTHREE ABOVE;iFOUR BELOW
cWAW WITH EXTENDED ARABIC-INDIC DIGIT TWO ABOVE;hTHREE ABOVE
cYEH BARREE WITH EXTENDED ARABIC-INDIC DIGIT TWO ABOVE;iTHREE ABOVE
cHAH WITH EXTENDED ARABIC-INDIC DIGIT FOUR BELOW;cSEEN WITH EXTENDED ARABIC-INDIC DIGIT FOUR ABOVE
eINVERTED V;cKAF WITH TWO DOTS ABOVE;aTHAANA LETTER HAA;cSHAVIYANI;cNOONU;cRAA;cBAA;cLHAVIYANI
cKAAFU;cALIFU;cVAAVU;cMEEMU;cFAAFU;cDHAALU;cTHAA;cLAAMU;cGAAFU;cGNAVIYANI;cSEENU;cDAVIYANI
cZAVIYANI;cTAVIYANI;cYAA;cPAVIYANI;cJAVIYANI;cCHAVIYANI;cTTAA;cHHAA;cKHAA;cTHAALU;cZAA;cSHEENU
cSAADHU;cDAADHU;cTO;cZO;cAINU;cGHAINU;cQAAFU;cWAAVU;bABAFILI;bAABAAFILI;bIBIFILI;bEEBEEFILI
bUBUFILI;bOOBOOFILI;bEBEFILI;bEYBEYFILI;bOBOFILI;bOABOAFILI;bSUKUN;bLETTER NAA;@7C0
aNKO DIGIT ZERO;cONE;cTWO;cTHREE;cFOUR;cFIVE;cSIX;cSEVEN;cEIGHT;cNINE;bLETTER A;cEE;cI;cE;cU;cOO
cO;cDAGBASINNA;cN;cBA;cPA;cTA;cJA;cCHA;cDA;cRA;cRRA;cSA;cGBA;cFA;cKA;cLA;cNA WOLOSO;cMA;cNYA;cNA
cHA;cWA;cYA;cNYA WOLOSO;cJONA JA;dCHA;dRA;bCOMBINING SHORT HIGH TONE;dLOW TONE;dRISING TONE
cLONG DESCENDING TONE;dHIGH TONE;dLOW TONE;dRISING TONE;cNASALIZATION MARK;cDOUBLE DOT ABOVE
bHIGH TONE APOSTROPHE;bLOW TONE APOSTROPHE;bSYMBOL OO DENNEN;cGBAKURUNEN;bCOMMA;bEXCLAMATION MARK
bLAJANYALAN;@7FD;bDANTAYALAN;bDOROME SIGN;bTAMAN SIGN;aSAMARITAN LETTER ALAF;cBIT;cGAMAN;cDALAT
cIY;cBAA;cZEN;cIT;cTIT;cYUT;cKAAF;cLABAT;cMIM;cNUN;cSINGAAT;cIN;cFI;cTSAADIY;cQUF;cRISH;cSHAN
cTAAF;bMARK IN;cIN-ALAF;cOCCLUSION;cDAGESH;bMODIFIER LETTER EPENTHETIC YUT;bMARK EPENTHETIC YUT
bVOWEL SIGN LONG E;dE;dOVERLONG AA;dLONG AA;dAA;dOVERLONG A;dLONG A;dA;bMODIFIER LETTER SHORT A
bVOWEL SIGN SHORT A;dLONG U;dU;bMODIFIER LETTER I;bVOWEL SIGN LONG I;dI;dO;dSUKUN;bMARK NEQUDAA
@830;bPUNCTUATION NEQUDAA;cAFSAAQ;cANGED;cBAU;cATMAAU;cSHIYYAALAA;bABBREVIATION MARK
bPUNCTUATION MELODIC QITSA;cZIQAA;cQITSA;cZAEF;cTURU;cARKAANU;cSOF MASHFAAT;cANNAAU;@840
aMANDAIC LETTER HALQA;cAB;cAG;cAD;cAH;cUSHENNA;cAZ;cIT;cATT;cAKSA;cAK;cAL;cAM;cAN;cAS;cIN;cAP;cASZ
cAQ;cAR;cASH;cAT;cDUSHENNA;cKAD;cAIN;bAFFRICATION MARK;bVOCALIZATION MARK;bGEMINATION MARK;@85E
bPUNCTUATION;@860;aSYRIAC LETTER MALAYALAM NGA;dJA;dNYA;dTTA;dNNA;dNNNA;dBHA;dRA;dLLA;dLLLA;dSSA
@870;aARABIC LETTER ALEF WITH ATTACHED FATHA;fTOP RIGHT FATHA;eRIGHT MIDDLE STROKE
eLEFT MIDDLE STROKE;eATTACHED KASRA;fBOTTOM RIGHT KASRA;fROUND DOT ABOVE;fRIGHT ROUND DOT
fLEFT ROUND DOT;fROUND DOT BELOW;eDOT ABOVE;eATTACHED TOP RIGHT FATHA AND DOT ABOVE
eRIGHT MIDDLE STROKE AND DOT ABOVE;eATTACHED BOTTOM RIGHT KASRA AND DOT ABOVE
fTOP RIGHT FATHA AND LEFT RING;eRIGHT MIDDLE STROKE AND LEFT RING
eATTACHED BOTTOM RIGHT KASRA AND LEFT RING;fRIGHT HAMZA;fLEFT HAMZA;bTATWEEL WITH OVERSTRUCK HAMZA
eWAW;dTWO DOTS BELOW;bLETTER THIN YEH;bBASELINE ROUND DOT;bRAISED ROUND DOT
bLETTER NOON WITH INVERTED SMALL V;cHAH WITH INVERTED SMALL V BELOW;cTAH WITH DOT BELOW
eTHREE DOTS BELOW;cKEHEH WITH TWO DOTS VERTICALLY BELOW;bVERTICAL TAIL;@890;bPOUND MARK ABOVE
bPIASTRE MARK ABOVE;@898;bSMALL HIGH WORD AL-JUZ;cLOW WORD ISHMAAM;eIMAALA;eTASHEEL;bMADDA WAAJIB
bSUPERSCRIPT ALEF MOKHASSAS;bDOUBLED MADDA;bHALF MADDA OVER MADDA;bLETTER BEH WITH SMALL V BELOW
eHAMZA ABOVE;cJEEM WITH TWO DOTS ABOVE;cTAH WITH TWO DOTS ABOVE
cFEH WITH DOT BELOW AND THREE DOTS ABOVE;cQAF WITH DOT BELOW;cLAM WITH DOUBLE BAR
cMEEM WITH THREE DOTS ABOVE;cYEH WITH TWO DOTS BELOW AND HAMZA ABOVE;iDOT ABOVE;cREH WITH LOOP
cWAW WITH DOT WITHIN;cROHINGYA YEH;cLOW ALEF;cDAL WITH THREE DOTS BELOW;cSAD WITH THREE DOTS BELOW
cGAF WITH INVERTED STROKE;cSTRAIGHT WAW;cZAIN WITH INVERTED V ABOVE;cAIN WITH THREE DOTS BELOW
cKAF WITH DOT BELOW;cQAF WITH DOT BELOW AND NO DOTS ABOVE;cBEH WITH SMALL MEEM ABOVE
cPEH WITH SMALL MEEM ABOVE;cTEH WITH SMALL TEH ABOVE;cREH WITH SMALL NOON ABOVE
cYEH WITH TWO DOTS BELOW AND SMALL NOON ABOVE;cAFRICAN FEH;dQAF;dNOON;cPEH WITH SMALL V
cTEH WITH SMALL V;cTTEH WITH SMALL V;cTCHEH WITH SMALL V;cKEHEH WITH SMALL V
cGHAIN WITH THREE DOTS ABOVE;cAFRICAN QAF WITH THREE DOTS ABOVE;cJEEM WITH THREE DOTS ABOVE;gBELOW
cLAM WITH SMALL ARABIC LETTER TAH ABOVE;cGRAF;bSMALL FARSI YEH;cHIGH FARSI YEH
dYEH BARREE WITH TWO DOTS BELOW;dWORD SAH;dZAH;bLARGE ROUND DOT ABOVE;eBELOW;bSUKUN BELOW
bLARGE CIRCLE BELOW;cROUND DOT INSIDE CIRCLE BELOW;bSMALL LOW WAW;cHIGH WORD AR-RUB;dSAD;dAIN;dQAF
dNOON WITH KASRA;cLOW NOON WITH KASRA;cHIGH WORD ATH-THALATHA;eAS-SAJDA;eAN-NISF;eSAKTA;eQIF
eWAQFA;dFOOTNOTE MARKER;dSIGN SAFHA;bDISPUTED END OF AYAH;bTURNED DAMMA BELOW;bCURLY FATHA;cDAMMA
cKASRA;cFATHATAN;cDAMMATAN;cKASRATAN;bTONE ONE DOT ABOVE;cTWO DOTS ABOVE;cLOOP ABOVE
cONE DOT BELOW;cTWO DOTS BELOW;cLOOP BELOW;bOPEN FATHATAN;cDAMMATAN;cKASRATAN;bSMALL HIGH WAW
bFATHA WITH RING;dDOT ABOVE;bKASRA WITH DOT BELOW;bLEFT ARROWHEAD ABOVE;bRIGHT ARROWHEAD ABOVE
bLEFT ARROWHEAD BELOW;bRIGHT ARROWHEAD BELOW;bDOUBLE RIGHT ARROWHEAD ABOVE;fWITH DOT
bRIGHT ARROWHEAD ABOVE WITH DOT;bDAMMA WITH DOT;bMARK SIDEWAYS NOON GHUNNA
aDEVANAGARI SIGN INVERTED CANDRABINDU;cCANDRABINDU;cANUSVARA;cVISARGA;bLETTER SHORT A;cA;cAA;cI
cII;cU;cUU;cVOCALIC R;dL;cCANDRA E;cSHORT E;cE;cAI;cCANDRA O;cSHORT O;cO;cAU;cKA;cKHA;cGA;cGHA
cNGA;cCA;cCHA;cJA;cJHA;cNYA;cTTA;cTTHA;cDDA;cDDHA;cNNA;cTA;cTHA;cDA;cDHA;cNA;cNNNA;cPA;cPHA;cBA
cBHA;cMA;cYA;cRA;cRRA;cLA;cLLA;cLLLA;cVA;cSHA;cSSA;cSA;cHA;bVOWEL SIGN OE;dOOE;bSIGN NUKTA
cAVAGRAHA;bVOWEL SIGN AA;dI;dII;dU;dUU;dVOCALIC R;eRR;dCANDRA E;dSHORT E;dE;dAI;dCANDRA O;dSHORT O
dO;dAU;bSIGN VIRAMA;bVOWEL SIGN PRISHTHAMATRA E;dAW;bOM;bSTRESS SIGN UDATTA;dANUDATTA
bGRAVE ACCENT;bACUTE ACCENT;bVOWEL SIGN CANDRA LONG E;dUE;dUUE;bLETTER QA;cKHHA;cGHHA;cZA;cDDDHA
cRHA;cFA;cYYA;cVOCALIC RR;dLL;bVOWEL SIGN VOCALIC L;eLL;bDANDA;bDOUBLE DANDA;bDIGIT ZERO;cONE;cTWO
cTHREE;cFOUR;cFIVE;cSIX;cSEVEN;cEIGHT;cNINE;bABBREVIATION SIGN;bSIGN HIGH SPACING DOT
bLETTER CANDRA A;cOE;cOOE;cAW;cUE;cUUE;cMARWARI DDA;cZHA;cHEAVY YA;cGGA;cJJA;cGLOTTAL STOP;cDDDA
cBBA;aBENGALI ANJI;bSIGN CANDRABINDU;cANUSVARA;cVISARGA;@985;bLETTER A;cAA;cI;cII;cU;cUU
cVOCALIC R;dL;@98F;cE;cAI;@993;cO;cAU;cKA;cKHA;cGA;cGHA;cNGA;cCA;cCHA;cJA;cJHA;cNYA;cTTA;cTTHA
cDDA;cDDHA;cNNA;cTA;cTHA;cDA;cDHA;cNA;@9AA;cPA;cPHA;cBA;cBHA;cMA;cYA;cRA;@9B2;cLA;@9B6;cSHA;cSSA
cSA;cHA;@9BC;bSIGN NUKTA;cAVAGRAHA;bVOWEL SIGN AA;dI;dII;dU;dUU;dVOCALIC R;eRR;@9C7;dE;dAI;@9CB;dO
dAU;bSIGN VIRAMA;bLETTER KHANDA TA;@9D7;bAU LENGTH MARK;@9DC;bLETTER RRA;cRHA;@9DF;cYYA
cVOCALIC RR;dLL;bVOWEL SIGN VOCALIC L;eLL;@9E6;bDIGIT ZERO;cONE;cTWO;cTHREE;cFOUR;cFIVE;cSIX
cSEVEN;cEIGHT;cNINE;bLETTER RA WITH MIDDLE DIAGONAL;eLOWER DIAGONAL;bRUPEE MARK;cSIGN
bCURRENCY NUMERATOR ONE;dTWO;dTHREE;dFOUR;dONE LESS THAN THE DENOMINATOR;cDENOMINATOR SIXTEEN
bISSHAR;bGANDA MARK;bLETTER VEDIC ANUSVARA;bABBREVIATION SIGN;bSANDHI MARK;@A01
aGURMUKHI SIGN ADAK BINDI;cBINDI;cVISARGA;@A05;bLETTER A;cAA;cI;cII;cU;cUU;@A0F;cEE;cAI;@A13;cOO
cAU;cKA;cKHA;cGA;cGHA;cNGA;cCA;cCHA;cJA;cJHA;cNYA;cTTA;cTTHA;cDDA;cDDHA;cNNA;cTA;cTHA;cDA;cDHA;cNA
@A2A;cPA;cPHA;cBA;cBHA;cMA;cYA;cRA;@A32;cLA;cLLA;@A35;cVA;cSHA;@A38;cSA;cHA;@A3C;bSIGN NUKTA;@A3E
bVOWEL SIGN AA;dI;dII;dU;dUU;@A47;dEE;dAI;@A4B;dOO;dAU;bSIGN VIRAMA;@A51;cUDAAT;@A59;bLETTER KHHA
cGHHA;cZA;cRRA;@A5E;cFA;@A66;bDIGIT ZERO;cONE;cTWO;cTHREE;cFOUR;cFIVE;cSIX;cSEVEN;cEIGHT;cNINE
bTIPPI;bADDAK;bIRI;bURA;bEK ONKAR;bSIGN YAKASH;bABBREVIATION SIGN;@A81;aGUJARATI SIGN CANDRABINDU
cANUSVARA;cVISARGA;@A85;bLETTER A;cAA;cI;cII;cU;cUU;cVOCALIC R;dL;bVOWEL CANDRA E;@A8F;bLETTER E
cAI;bVOWEL CANDRA O;@A93;bLETTER O;cAU;cKA;cKHA;cGA;cGHA;cNGA;cCA;cCHA;cJA;cJHA;cNYA;cTTA;cTTHA
cDDA;cDDHA;cNNA;cTA;cTHA;cDA;cDHA;cNA;@AAA;cPA;cPHA;cBA;cBHA;cMA;cYA;cRA;@AB2;cLA;cLLA;@AB5;cVA
cSHA;cSSA;cSA;cHA;@ABC;bSIGN NUKTA;cAVAGRAHA;bVOWEL SIGN AA;dI;dII;dU;dUU;dVOCALIC R;eRR;dCANDRA E
@AC7;dE;dAI;dCANDRA O;@ACB;dO;dAU;bSIGN VIRAMA;@AD0;bOM;@AE0;bLETTER VOCALIC RR;dLL
bVOWEL SIGN VOCALIC L;eLL;@AE6;bDIGIT ZERO;cONE;cTWO;cTHREE;cFOUR;cFIVE;cSIX;cSEVEN;cEIGHT;cNINE
bABBREVIATION SIGN;bRUPEE SIGN;@AF9;bLETTER ZHA;bSIGN SUKUN;cSHADDA;cMADDAH;cTHREE-DOT NUKTA ABOVE
cCIRCLE NUKTA ABOVE;cTWO-CIRCLE NUKTA ABOVE;@B01;aORIYA SIGN CANDRABINDU;cANUSVARA;cVISARGA;@B05
bLETTER A;cAA;cI;cII;cU;cUU;cVOCALIC R;dL;@B0F;cE;cAI;@B13;cO;cAU;cKA;cKHA;cGA;cGHA;cNGA;cCA;cCHA
cJA;cJHA;cNYA;cTTA;cTTHA;cDDA;cDDHA;cNNA;cTA;cTHA;cDA;cDHA;cNA;@B2A;cPA;cPHA;cBA;cBHA;cMA;cYA;cRA
@B32;cLA;cLLA;@B35;cVA;cSHA;cSSA;cSA;cHA;@B3C;bSIGN NUKTA;cAVAGRAHA;bVOWEL SIGN AA;dI;dII;dU;dUU
dVOCALIC R;eRR;@B47;dE;dAI;@B4B;dO;dAU;bSIGN VIRAMA;@B55;cOVERLINE;bAI LENGTH MARK;bAU LENGTH MARK
@B5C;bLETTER RRA;cRHA;@B5F;cYYA;cVOCALIC RR;dLL;bVOWEL SIGN VOCALIC L;eLL;@B66;bDIGIT ZERO;cONE
cTWO;cTHREE;cFOUR;cFIVE;cSIX;cSEVEN;cEIGHT;cNINE;bISSHAR;bLETTER WA;bFRACTION ONE QUARTER;dHALF
cTHREE QUARTERS;cONE SIXTEENTH;dEIGHTH;cTHREE SIXTEENTHS;@B82;aTAMIL SIGN ANUSVARA;cVISARGA;@B85
bLETTER A;cAA;cI;cII;cU;cUU;@B8E;cE;cEE;cAI;@B92;cO;cOO;cAU;cKA;@B99;cNGA;cCA;@B9C;cJA;@B9E;cNYA
cTTA;@BA3;cNNA;cTA;@BA8;cNA;cNNNA;cPA;@BAE;cMA;cYA;cRA;cRRA;cLA;cLLA;cLLLA;cVA;cSHA;cSSA;cSA;cHA
@BBE;bVOWEL SIGN AA;dI;dII;dU;dUU;@BC6;dE;dEE;dAI;@BCA;dO;dOO;dAU;bSIGN VIRAMA;@BD0;bOM;@BD7
bAU LENGTH MARK;@BE6;bDIGIT ZERO;cONE;cTWO;cTHREE;cFOUR;cFIVE;cSIX;cSEVEN;cEIGHT;cNINE;bNUMBER TEN
cONE HUNDRED;dTHOUSAND;bDAY SIGN;bMONTH SIGN;bYEAR SIGN;bDEBIT SIGN;bCREDIT SIGN;bAS ABOVE SIGN
bRUPEE SIGN;bNUMBER SIGN;@C00;aTELUGU SIGN COMBINING CANDRABINDU ABOVE;cCANDRABINDU;cANUSVARA
cVISARGA;cCOMBINING ANUSVARA ABOVE;bLETTER A;cAA;cI;cII;cU;cUU;cVOCALIC R;dL;@C0E;cE;cEE;cAI;@C12
cO;cOO;cAU;cKA;cKHA;cGA;cGHA;cNGA;cCA;cCHA;cJA;cJHA;cNYA;cTTA;cTTHA;cDDA;cDDHA;cNNA;cTA;cTHA;cDA
cDHA;cNA;@C2A;cPA;cPHA;cBA;cBHA;cMA;cYA;cRA;cRRA;cLA;cLLA;cLLLA;cVA;cSHA;cSSA;cSA;cHA;@C3C
bSIGN NUKTA;cAVAGRAHA;bVOWEL SIGN AA;dI;dII;dU;dUU;dVOCALIC R;eRR;@C46;dE;dEE;dAI;@C4A;dO;dOO;dAU
bSIGN VIRAMA;@C55;bLENGTH MARK;bAI LENGTH MARK;@C58;bLETTER TSA;cDZA;cRRRA;@C5D;cNAKAARA POLLU
@C60;cVOCALIC RR;dLL;bVOWEL SIGN VOCALIC L;eLL;@C66;bDIGIT ZERO;cONE;cTWO;cTHREE;cFOUR;cFIVE;cSIX
cSEVEN;cEIGHT;cNINE;@C77;bSIGN SIDDHAM;bFRACTION DIGIT ZERO FOR ODD POWERS OF FOUR
dONE FOR ODD POWERS OF FOUR;dTWO FOR ODD POWERS OF FOUR;dTHREE FOR ODD POWERS OF FOUR
dONE FOR EVEN POWERS OF FOUR;dTWO FOR EVEN POWERS OF FOUR;dTHREE FOR EVEN POWERS OF FOUR
bSIGN TUUMU;aKANNADA SIGN SPACING CANDRABINDU;cCANDRABINDU;cANUSVARA;cVISARGA;cSIDDHAM;bLETTER A
cAA;cI;cII;cU;cUU;cVOCALIC R;dL;@C8E;cE;cEE;cAI;@C92;cO;cOO;cAU;cKA;cKHA;cGA;cGHA;cNGA;cCA;cCHA
cJA;cJHA;cNYA;cTTA;cTTHA;cDDA;cDDHA;cNNA;cTA;cTHA;cDA;cDHA;cNA;@CAA;cPA;cPHA;cBA;cBHA;cMA;cYA;cRA
cRRA;cLA;cLLA;@CB5;cVA;cSHA;cSSA;cSA;cHA;@CBC;bSIGN NUKTA;cAVAGRAHA;bVOWEL SIGN AA;dI;dII;dU;dUU
dVOCALIC R;eRR;@CC6;dE;dEE;dAI;@CCA;dO;dOO;dAU;bSIGN VIRAMA;@CD5;bLENGTH MARK;bAI LENGTH MARK;@CDD
bLETTER NAKAARA POLLU;cFA;@CE0;cVOCALIC RR;dLL;bVOWEL SIGN VOCALIC L;eLL;@CE6;bDIGIT ZERO;cONE
cTWO;cTHREE;cFOUR;cFIVE;cSIX;cSEVEN;cEIGHT;cNINE;@CF1;bSIGN JIHVAMULIYA;cUPADHMANIYA;@D00
aMALAYALAM SIGN COMBINING ANUSVARA ABOVE;cCANDRABINDU;cANUSVARA;cVISARGA;bLETTER VEDIC ANUSVARA;cA
cAA;cI;cII;cU;cUU;cVOCALIC R;dL;@D0E;cE;cEE;cAI;@D12;cO;cOO;cAU;cKA;cKHA;cGA;cGHA;cNGA;cCA;cCHA
cJA;cJHA;cNYA;cTTA;cTTHA;cDDA;cDDHA;cNNA;cTA;cTHA;cDA;cDHA;cNA;cNNNA;cPA;cPHA;cBA;cBHA;cMA;cYA;cRA
cRRA;cLA;cLLA;cLLLA;cVA;cSHA;cSSA;cSA;cHA;cTTTA;bSIGN VERTICAL BAR VIRAMA;cCIRCULAR VIRAMA
cAVAGRAHA;bVOWEL SIGN AA;dI;dII;dU;dUU;dVOCALIC R;eRR;@D46;dE;dEE;dAI;@D4A;dO;dOO;dAU;bSIGN VIRAMA
bLETTER DOT REPH;bSIGN PARA;@D54;bLETTER CHILLU M;dY;dLLL;bAU LENGTH MARK
bFRACTION ONE ONE-HUNDRED-AND-SIXTIETH;dFORTIETH;cTHREE EIGHTIETHS;cONE TWENTIETH;dTENTH
cTHREE TWENTIETHS;cONE FIFTH;bLETTER ARCHAIC II;cVOCALIC RR;dLL;bVOWEL SIGN VOCALIC L;eLL;@D66
bDIGIT ZERO;cONE;cTWO;cTHREE;cFOUR;cFIVE;cSIX;cSEVEN;cEIGHT;cNINE;bNUMBER TEN;cONE HUNDRED
dTHOUSAND;bFRACTION ONE QUARTER;dHALF;cTHREE QUARTERS;cONE SIXTEENTH;dEIGHTH;cTHREE SIXTEENTHS
bDATE MARK;bLETTER CHILLU NN;dN;dRR;dL;dLL;dK;@D81;aSINHALA SIGN CANDRABINDU;cANUSVARAYA
cVISARGAYA;@D85;bLETTER AYANNA;cAAYANNA;cAEYANNA;cAEEYANNA;cIYANNA;cIIYANNA;cUYANNA;cUUYANNA
cIRUYANNA;cIRUUYANNA;cILUYANNA;cILUUYANNA;cEYANNA;cEEYANNA;cAIYANNA;cOYANNA;cOOYANNA;cAUYANNA;@D9A
cALPAPRAANA KAYANNA;cMAHAAPRAANA KAYANNA;cALPAPRAANA GAYANNA;cMAHAAPRAANA GAYANNA
cKANTAJA NAASIKYAYA;cSANYAKA GAYANNA;cALPAPRAANA CAYANNA;cMAHAAPRAANA CAYANNA;cALPAPRAANA JAYANNA
cMAHAAPRAANA JAYANNA;cTAALUJA NAASIKYAYA;dSANYOOGA NAAKSIKYAYA;cSANYAKA JAYANNA
cALPAPRAANA TTAYANNA;cMAHAAPRAANA TTAYANNA;cALPAPRAANA DDAYANNA;cMAHAAPRAANA DDAYANNA
cMUURDHAJA NAYANNA;cSANYAKA DDAYANNA;cALPAPRAANA TAYANNA;cMAHAAPRAANA TAYANNA;cALPAPRAANA DAYANNA
cMAHAAPRAANA DAYANNA;cDANTAJA NAYANNA;@DB3;cSANYAKA DAYANNA;cALPAPRAANA PAYANNA
cMAHAAPRAANA PAYANNA;cALPAPRAANA BAYANNA;cMAHAAPRAANA BAYANNA;cMAYANNA;cAMBA BAYANNA;cYAYANNA
cRAYANNA;@DBD;cDANTAJA LAYANNA;@DC0;cVAYANNA;cTAALUJA SAYANNA;cMUURDHAJA SAYANNA;cDANTAJA SAYANNA
cHAYANNA;cMUURDHAJA LAYANNA;cFAYANNA;@DCA;bSIGN AL-LAKUNA;@DCF;bVOWEL SIGN AELA-PILLA
dKETTI AEDA-PILLA;dDIGA AEDA-PILLA;dKETTI IS-PILLA;dDIGA IS-PILLA;dKETTI PAA-PILLA;@DD6
dDIGA PAA-PILLA;@DD8;dGAETTA-PILLA;dKOMBUVA;dDIGA KOMBUVA;dKOMBU DEKA;dKOMBUVA HAA AELA-PILLA
fDIGA AELA-PILLA;fGAYANUKITTA;dGAYANUKITTA;@DE6;bLITH DIGIT ZERO;dONE;dTWO;dTHREE;dFOUR;dFIVE;dSIX
dSEVEN;dEIGHT;dNINE;@DF2;bVOWEL SIGN DIGA GAETTA-PILLA;eGAYANUKITTA;bPUNCTUATION KUNDDALIYA;@E01
aTHAI CHARACTER KO KAI;cKHO KHAI;dKHUAT;dKHWAI;dKHON;dRAKHANG;cNGO NGU;cCHO CHAN;dCHING;dCHANG
cSO SO;cCHO CHOE;cYO YING;cDO CHADA;cTO PATAK;cTHO THAN;dNANGMONTHO;dPHUTHAO;cNO NEN;cDO DEK
cTO TAO;cTHO THUNG;dTHAHAN;dTHONG;cNO NU;cBO BAIMAI;cPO PLA;cPHO PHUNG;cFO FA;cPHO PHAN;cFO FAN
cPHO SAMPHAO;cMO MA;cYO YAK;cRO RUA;cRU;cLO LING;cLU;cWO WAEN;cSO SALA;dRUSI;dSUA;cHO HIP
cLO CHULA;cO ANG;cHO NOKHUK;cPAIYANNOI;cSARA A;cMAI HAN-AKAT;cSARA AA;dAM;dI;dII;dUE;dUEE;dU;dUU
cPHINTHU;@E3F;bCURRENCY SYMBOL BAHT;bCHARACTER SARA E;dAE;dO;dAI MAIMUAN;eMAIMALAI;cLAKKHANGYAO
cMAIYAMOK;cMAITAIKHU;cMAI EK;dTHO;dTRI;dCHATTAWA;cTHANTHAKHAT;cNIKHAHIT;cYAMAKKAN;cFONGMAN
bDIGIT ZERO;cONE;cTWO;cTHREE;cFOUR;cFIVE;cSIX;cSEVEN;cEIGHT;cNINE;bCHARACTER ANGKHANKHU;cKHOMUT
@E81;aLAO LETTER KO;cKHO SUNG;@E84;dTAM;@E86;cPALI GHA;cNGO;cCO;cPALI CHA;cSO TAM;@E8C;cPALI JHA
cNYO;cPALI NYA;dTTA;dTTHA;dDDA;dDDHA;dNNA;cDO;cTO;cTHO SUNG;dTAM;cPALI DHA;cNO;cBO;cPO;cPHO SUNG
cFO TAM;cPHO TAM;cFO SUNG;cPALI BHA;cMO;cYO;cLO LING;@EA5;dLOOT;@EA7;cWO;cSANSKRIT SHA;dSSA
cSO SUNG;cHO SUNG;cPALI LLA;cO;cHO TAM;bELLIPSIS;bVOWEL SIGN A;dMAI KAN;dAA;dAM;dI;dII;dY;dYY;dU
dUU;bSIGN PALI VIRAMA;bVOWEL SIGN MAI KON;bSEMIVOWEL SIGN LO;dNYO;@EC0;bVOWEL SIGN E;dEI;dO;dAY
dAI;@EC6;bKO LA;@EC8;bTONE MAI EK;dTHO;dTI;dCATAWA;bCANCELLATION MARK;bNIGGAHITA;@ED0;bDIGIT ZERO
cONE;cTWO;cTHREE;cFOUR;cFIVE;cSIX;cSEVEN;cEIGHT;cNINE;@EDC;bHO NO;cMO;bLETTER KHMU GO;dNYO;@F00
aTIBETAN SYLLABLE OM;bMARK GTER YIG MGO TRUNCATED A;f-UM RNAM BCAD MA;gGTER TSHEG MA
cINITIAL YIG MGO MDUN MA;cCLOSING YIG MGO SGAB MA;cCARET YIG MGO PHUR SHAD MA
cYIG MGO TSHEG SHAD MA;cSBRUL SHAD;cBSKUR YIG MGO;cBKA- SHOG YIG MGO;cINTERSYLLABIC TSHEG
cDELIMITER TSHEG BSTAR;cSHAD;cNYIS SHAD;cTSHEG SHAD;cNYIS TSHEG SHAD;cRIN CHEN SPUNGS SHAD
cRGYA GRAM SHAD;cCARET -DZUD RTAGS ME LONG CAN;cGTER TSHEG;bLOGOTYPE SIGN CHAD RTAGS;dLHAG RTAGS
bASTROLOGICAL SIGN SGRA GCAN -CHAR RTAGS;d-KHYUD PA;dSDONG TSHUGS;bSIGN RDEL DKAR GCIG;eGNYIS
eGSUM;dNAG GCIG;eGNYIS;dDKAR RDEL NAG;bDIGIT ZERO;cONE;cTWO;cTHREE;cFOUR;cFIVE;cSIX;cSEVEN;cEIGHT
cNINE;cHALF ONE;dTWO;dTHREE;dFOUR;dFIVE;dSIX;dSEVEN;dEIGHT;dNINE;dZERO;bMARK BSDUS RTAGS
cNGAS BZUNG NYI ZLA;cCARET -DZUD RTAGS BZHI MIG CAN;cNGAS BZUNG SGOR RTAGS;cCHE MGO;cTSA -PHRU
cGUG RTAGS GYON;eGYAS;cANG KHANG GYON;eGYAS;bSIGN YAR TSHES;cMAR TSHES;bLETTER KA;cKHA;cGA;cGHA
cNGA;cCA;cCHA;cJA;@F49;cNYA;cTTA;cTTHA;cDDA;cDDHA;cNNA;cTA;cTHA;cDA;cDHA;cNA;cPA;cPHA;cBA;cBHA;cMA
cTSA;cTSHA;cDZA;cDZHA;cWA;cZHA;cZA;c-A;cYA;cRA;cLA;cSHA;cSSA;cSA;cHA;cA;cKSSA;cFIXED-FORM RA;cKKA
cRRA;@F71;bVOWEL SIGN AA;dI;dII;dU;dUU;dVOCALIC R;eRR;eL;eLL;dE;dEE;dO;dOO;bSIGN RJES SU NGA RO
cRNAM BCAD;bVOWEL SIGN REVERSED I;eII;bSIGN NYI ZLA NAA DA;cSNA LDAN;bMARK HALANTA;cPALUTA
bSIGN LCI RTAGS;cYANG RTAGS;cLCE TSA CAN;cMCHU CAN;cGRU CAN RGYINGS;dMED RGYINGS
cINVERTED MCHU CAN;bSUBJOINED SIGN LCE TSA CAN;dMCHU CAN;dINVERTED MCHU CAN;cLETTER KA;dKHA;dGA
dGHA;dNGA;dCA;dCHA;dJA;@F99;dNYA;dTTA;dTTHA;dDDA;dDDHA;dNNA;dTA;dTHA;dDA;dDHA;dNA;dPA;dPHA;dBA
dBHA;dMA;dTSA;dTSHA;dDZA;dDZHA;dWA;dZHA;dZA;d-A;dYA;dRA;dLA;dSHA;dSSA;dSA;dHA;dA;dKSSA
dFIXED-FORM WA;eYA;eRA;@FBE;bKU RU KHA;eBZHI MIG CAN;bCANTILLATION SIGN HEAVY BEAT;dLIGHT BEAT
dCANG TE-U;dSBUB -CHAL;bSYMBOL DRIL BU;cRDO RJE;cPADMA GDAN;cRDO RJE RGYA GRAM;cPHUR PA;cNOR BU
eNYIS -KHYIL;eGSUM -KHYIL;eBZHI -KHYIL;@FCE;bSIGN RDEL NAG RDEL DKAR;eGSUM
bMARK BSKA- SHOG GI MGO RGYAN;cMNYAM YIG GI MGO RGYAN;cNYIS TSHEG
cINITIAL BRDA RNYING YIG MGO MDUN MA;cCLOSING BRDA RNYING YIG MGO SGAB MA
aRIGHT-FACING SVASTI SIGN;aLEFT-FACING SVASTI SIGN;aRIGHT-FACING SVASTI SIGN WITH DOTS
aLEFT-FACING SVASTI SIGN WITH DOTS;aTIBETAN MARK LEADING MCHAN RTAGS;cTRAILING MCHAN RTAGS;@1000
aMYANMAR LETTER KA;cKHA;cGA;cGHA;cNGA;cCA;cCHA;cJA;cJHA;cNYA;cNNYA;cTTA;cTTHA;cDDA;cDDHA;cNNA;cTA
cTHA;cDA;cDHA;cNA;cPA;cPHA;cBA;cBHA;cMA;cYA;cRA;cLA;cWA;cSA;cHA;cLLA;cA;cSHAN A;cI;cII;cU;cUU;cE
cMON E;cO;cAU;bVOWEL SIGN TALL AA;dAA;dI;dII;dU;dUU;dE;dAI;dMON II;eO;dE ABOVE;bSIGN ANUSVARA
cDOT BELOW;cVISARGA;cVIRAMA;cASAT;bCONSONANT SIGN MEDIAL YA;eRA;eWA;eHA;bLETTER GREAT SA
bDIGIT ZERO;cONE;cTWO;cTHREE;cFOUR;cFIVE;cSIX;cSEVEN;cEIGHT;cNINE;bSIGN LITTLE SECTION;cSECTION
bSYMBOL LOCATIVE;cCOMPLETED;cAFOREMENTIONED;cGENITIVE;bLETTER SHA;cSSA;cVOCALIC R;dRR;dL;dLL
bVOWEL SIGN VOCALIC R;eRR;eL;eLL;bLETTER MON NGA;dJHA;dBBA;dBBE;bCONSONANT SIGN MON MEDIAL NA;fMA
fLA;bLETTER SGAW KAREN SHA;bVOWEL SIGN SGAW KAREN EU;bTONE MARK SGAW KAREN HATHI;fKE PHO
bLETTER WESTERN PWO KAREN THA;fPWA;bVOWEL SIGN WESTERN PWO KAREN EU;gUE
bSIGN WESTERN PWO KAREN TONE-1;fTONE-2;fTONE-3;fTONE-4;fTONE-5;bLETTER EASTERN PWO KAREN NNA;fYWA
fGHWA;bVOWEL SIGN GEBA KAREN I;dKAYAH OE;eU;eEE;bLETTER SHAN KA;dKHA;dGA;dCA;dZA;dNYA;dDA;dNA;dPHA
dFA;dBA;dTHA;dHA;bCONSONANT SIGN SHAN MEDIAL WA;bVOWEL SIGN SHAN AA;eE;fABOVE;eFINAL Y
bSIGN SHAN TONE-2;dTONE-3;dTONE-5;dTONE-6;dCOUNCIL TONE-2;eTONE-3;eEMPHATIC TONE
bLETTER RUMAI PALAUNG FA;bSIGN RUMAI PALAUNG TONE-5;bSHAN DIGIT ZERO;dONE;dTWO;dTHREE;dFOUR;dFIVE
dSIX;dSEVEN;dEIGHT;dNINE;bSIGN KHAMTI TONE-1;dTONE-3;bVOWEL SIGN AITON A;eAI;bSYMBOL SHAN ONE
dEXCLAMATION;aGEORGIAN CAPITAL LETTER AN;dBAN;dGAN;dDON;dEN;dVIN;dZEN;dTAN;dIN;dKAN;dLAS;dMAN;dNAR
dON;dPAR;dZHAR;dRAE;dSAN;dTAR;dUN;dPHAR;dKHAR;dGHAN;dQAR;dSHIN;dCHIN;dCAN;dJIL;dCIL;dCHAR;dXAN
dJHAN;dHAE;dHE;dHIE;dWE;dHAR;dHOE;@10C7;dYN;@10CD;dAEN;@10D0;bLETTER AN;cBAN;cGAN;cDON;cEN;cVIN
cZEN;cTAN;cIN;cKAN;cLAS;cMAN;cNAR;cON;cPAR;cZHAR;cRAE;cSAN;cTAR;cUN;cPHAR;cKHAR;cGHAN;cQAR;cSHIN
cCHIN;cCAN;cJIL;cCIL;cCHAR;cXAN;cJHAN;cHAE;cHE;cHIE;cWE;cHAR;cHOE;cFI;cYN;cELIFI;cTURNED GAN;cAIN
bPARAGRAPH SEPARATOR;aMODIFIER LETTER GEORGIAN NAR;aGEORGIAN LETTER AEN;cHARD SIGN;cLABIAL SIGN
aHANGUL CHOSEONG KIYEOK;cSSANGKIYEOK;cNIEUN;cTIKEUT;cSSANGTIKEUT;cRIEUL;cMIEUM;cPIEUP;cSSANGPIEUP
cSIOS;cSSANGSIOS;cIEUNG;cCIEUC;cSSANGCIEUC;cCHIEUCH;cKHIEUKH;cTHIEUTH;cPHIEUPH;cHIEUH
cNIEUN-KIYEOK;cSSANGNIEUN;cNIEUN-TIKEUT;cNIEUN-PIEUP;cTIKEUT-KIYEOK;cRIEUL-NIEUN;cSSANGRIEUL
cRIEUL-HIEUH;cKAPYEOUNRIEUL;cMIEUM-PIEUP;cKAPYEOUNMIEUM;cPIEUP-KIYEOK;cPIEUP-NIEUN;cPIEUP-TIKEUT
cPIEUP-SIOS;cPIEUP-SIOS-KIYEOK;cPIEUP-SIOS-TIKEUT;cPIEUP-SIOS-PIEUP;cPIEUP-SSANGSIOS
cPIEUP-SIOS-CIEUC;cPIEUP-CIEUC;cPIEUP-CHIEUCH;cPIEUP-THIEUTH;cPIEUP-PHIEUPH;cKAPYEOUNPIEUP
cKAPYEOUNSSANGPIEUP;cSIOS-KIYEOK;cSIOS-NIEUN;cSIOS-TIKEUT;cSIOS-RIEUL;cSIOS-MIEUM;cSIOS-PIEUP
cSIOS-PIEUP-KIYEOK;cSIOS-SSANGSIOS;cSIOS-IEUNG;cSIOS-CIEUC;cSIOS-CHIEUCH;cSIOS-KHIEUKH
cSIOS-THIEUTH;cSIOS-PHIEUPH;cSIOS-HIEUH;cCHITUEUMSIOS;cCHITUEUMSSANGSIOS;cCEONGCHIEUMSIOS
cCEONGCHIEUMSSANGSIOS;cPANSIOS;cIEUNG-KIYEOK;cIEUNG-TIKEUT;cIEUNG-MIEUM;cIEUNG-PIEUP;cIEUNG-SIOS
cIEUNG-PANSIOS;cSSANGIEUNG;cIEUNG-CIEUC;cIEUNG-CHIEUCH;cIEUNG-THIEUTH;cIEUNG-PHIEUPH;cYESIEUNG
cCIEUC-IEUNG;cCHITUEUMCIEUC;cCHITUEUMSSANGCIEUC;cCEONGCHIEUMCIEUC;cCEONGCHIEUMSSANGCIEUC
cCHIEUCH-KHIEUKH;cCHIEUCH-HIEUH;cCHITUEUMCHIEUCH;cCEONGCHIEUMCHIEUCH;cPHIEUPH-PIEUP
cKAPYEOUNPHIEUPH;cSSANGHIEUH;cYEORINHIEUH;cKIYEOK-TIKEUT;cNIEUN-SIOS;cNIEUN-CIEUC;cNIEUN-HIEUH
cTIKEUT-RIEUL;cFILLER;bJUNGSEONG FILLER;cA;cAE;cYA;cYAE;cEO;cE;cYEO;cYE;cO;cWA;cWAE;cOE;cYO;cU
cWEO;cWE;cWI;cYU;cEU;cYI;cI;cA-O;cA-U;cYA-O;cYA-YO;cEO-O;cEO-U;cEO-EU;cYEO-O;cYEO-U;cO-EO;cO-E
cO-YE;cO-O;cO-U;cYO-YA;cYO-YAE;cYO-YEO;cYO-O;cYO-I;cU-A;cU-AE;cU-EO-EU;cU-YE;cU-U;cYU-A;cYU-EO
cYU-E;cYU-YEO;cYU-YE;cYU-U;cYU-I;cEU-U;cEU-EU;cYI-U;cI-A;cI-YA;cI-O;cI-U;cI-EU;cI-ARAEA;cARAEA
cARAEA-EO;cARAEA-U;cARAEA-I;cSSANGARAEA;cA-EU;cYA-U;cYEO-YA;cO-YA;cO-YAE;bJONGSEONG KIYEOK
cSSANGKIYEOK;cKIYEOK-SIOS;cNIEUN;cNIEUN-CIEUC;cNIEUN-HIEUH;cTIKEUT;cRIEUL;cRIEUL-KIYEOK
cRIEUL-MIEUM;cRIEUL-PIEUP;cRIEUL-SIOS;cRIEUL-THIEUTH;cRIEUL-PHIEUPH;cRIEUL-HIEUH;cMIEUM;cPIEUP
cPIEUP-SIOS;cSIOS;cSSANGSIOS;cIEUNG;cCIEUC;cCHIEUCH;cKHIEUKH;cTHIEUTH;cPHIEUPH;cHIEUH
cKIYEOK-RIEUL;cKIYEOK-SIOS-KIYEOK;cNIEUN-KIYEOK;cNIEUN-TIKEUT;cNIEUN-SIOS;cNIEUN-PANSIOS
cNIEUN-THIEUTH;cTIKEUT-KIYEOK;cTIKEUT-RIEUL;cRIEUL-KIYEOK-SIOS;cRIEUL-NIEUN;cRIEUL-TIKEUT
cRIEUL-TIKEUT-HIEUH;cSSANGRIEUL;cRIEUL-MIEUM-KIYEOK;cRIEUL-MIEUM-SIOS;cRIEUL-PIEUP-SIOS
cRIEUL-PIEUP-HIEUH;cRIEUL-KAPYEOUNPIEUP;cRIEUL-SSANGSIOS;cRIEUL-PANSIOS;cRIEUL-KHIEUKH
cRIEUL-YEORINHIEUH;cMIEUM-KIYEOK;cMIEUM-RIEUL;cMIEUM-PIEUP;cMIEUM-SIOS;cMIEUM-SSANGSIOS
cMIEUM-PANSIOS;cMIEUM-CHIEUCH;cMIEUM-HIEUH;cKAPYEOUNMIEUM;cPIEUP-RIEUL;cPIEUP-PHIEUPH;cPIEUP-HIEUH
cKAPYEOUNPIEUP;cSIOS-KIYEOK;cSIOS-TIKEUT;cSIOS-RIEUL;cSIOS-PIEUP;cPANSIOS;cIEUNG-KIYEOK
cIEUNG-SSANGKIYEOK;cSSANGIEUNG;cIEUNG-KHIEUKH;cYESIEUNG;cYESIEUNG-SIOS;cYESIEUNG-PANSIOS
cPHIEUPH-PIEUP;cKAPYEOUNPHIEUPH;cHIEUH-NIEUN;cHIEUH-RIEUL;cHIEUH-MIEUM;cHIEUH-PIEUP;cYEORINHIEUH
cKIYEOK-NIEUN;cKIYEOK-PIEUP;cKIYEOK-CHIEUCH;cKIYEOK-KHIEUKH;cKIYEOK-HIEUH;cSSANGNIEUN
aETHIOPIC SYLLABLE HA;cHU;cHI;cHAA;cHEE;cHE;cHO;cHOA;cLA;cLU;cLI;cLAA;cLEE;cLE;cLO;cLWA;cHHA;cHHU
cHHI;cHHAA;cHHEE;cHHE;cHHO;cHHWA;cMA;cMU;cMI;cMAA;cMEE;cME;cMO;cMWA;cSZA;cSZU;cSZI;cSZAA;cSZEE
cSZE;cSZO;cSZWA;cRA;cRU;cRI;cRAA;cREE;cRE;cRO;cRWA;cSA;cSU;cSI;cSAA;cSEE;cSE;cSO;cSWA;cSHA;cSHU
cSHI;cSHAA;cSHEE;cSHE;cSHO;cSHWA;cQA;cQU;cQI;cQAA;cQEE;cQE;cQO;cQOA;cQWA;@124A;cQWI;cQWAA;cQWEE
cQWE;@1250;cQHA;cQHU;cQHI;cQHAA;cQHEE;cQHE;cQHO;@1258;cQHWA;@125A;cQHWI;cQHWAA;cQHWEE;cQHWE;@1260
cBA;cBU;cBI;cBAA;cBEE;cBE;cBO;cBWA;cVA;cVU;cVI;cVAA;cVEE;cVE;cVO;cVWA;cTA;cTU;cTI;cTAA;cTEE;cTE
cTO;cTWA;cCA;cCU;cCI;cCAA;cCEE;cCE;cCO;cCWA;cXA;cXU;cXI;cXAA;cXEE;cXE;cXO;cXOA;cXWA;@128A;cXWI
cXWAA;cXWEE;cXWE;@1290;cNA;cNU;cNI;cNAA;cNEE;cNE;cNO;cNWA;cNYA;cNYU;cNYI;cNYAA;cNYEE;cNYE;cNYO
cNYWA;cGLOTTAL A;dU;dI;dAA;dEE;dE;dO;dWA;cKA;cKU;cKI;cKAA;cKEE;cKE;cKO;cKOA;cKWA;@12B2;cKWI;cKWAA
cKWEE;cKWE;@12B8;cKXA;cKXU;cKXI;cKXAA;cKXEE;cKXE;cKXO;@12C0;cKXWA;@12C2;cKXWI;cKXWAA;cKXWEE;cKXWE
@12C8;cWA;cWU;cWI;cWAA;cWEE;cWE;cWO;cWOA;cPHARYNGEAL A;dU;dI;dAA;dEE;dE;dO;@12D8;cZA;cZU;cZI;cZAA
cZEE;cZE;cZO;cZWA;cZHA;cZHU;cZHI;cZHAA;cZHEE;cZHE;cZHO;cZHWA;cYA;cYU;cYI;cYAA;cYEE;cYE;cYO;cYOA
cDA;cDU;cDI;cDAA;cDEE;cDE;cDO;cDWA;cDDA;cDDU;cDDI;cDDAA;cDDEE;cDDE;cDDO;cDDWA;cJA;cJU;cJI;cJAA
cJEE;cJE;cJO;cJWA;cGA;cGU;cGI;cGAA;cGEE;cGE;cGO;cGOA;cGWA;@1312;cGWI;cGWAA;cGWEE;cGWE;@1318;cGGA
cGGU;cGGI;cGGAA;cGGEE;cGGE;cGGO;cGGWAA;cTHA;cTHU;cTHI;cTHAA;cTHEE;cTHE;cTHO;cTHWA;cCHA;cCHU;cCHI
cCHAA;cCHEE;cCHE;cCHO;cCHWA;cPHA;cPHU;cPHI;cPHAA;cPHEE;cPHE;cPHO;cPHWA;cTSA;cTSU;cTSI;cTSAA;cTSEE
cTSE;cTSO;cTSWA;cTZA;cTZU;cTZI;cTZAA;cTZEE;cTZE;cTZO;cTZOA;cFA;cFU;cFI;cFAA;cFEE;cFE;cFO;cFWA;cPA
cPU;cPI;cPAA;cPEE;cPE;cPO;cPWA;cRYA;cMYA;cFYA;@135D;bCOMBINING GEMINATION AND VOWEL LENGTH MARK
cVOWEL LENGTH MARK;cGEMINATION MARK;bSECTION MARK;bWORDSPACE;bFULL STOP;bCOMMA;bSEMICOLON;bCOLON
bPREFACE COLON;bQUESTION MARK;bPARAGRAPH SEPARATOR;bDIGIT ONE;cTWO;cTHREE;cFOUR;cFIVE;cSIX;cSEVEN
cEIGHT;cNINE;bNUMBER TEN;cTWENTY;cTHIRTY;cFORTY;cFIFTY;cSIXTY;cSEVENTY;cEIGHTY;cNINETY;cHUNDRED
cTEN THOUSAND;@1380;bSYLLABLE SEBATBEIT MWA;cMWI;cMWEE;cMWE;cSEBATBEIT BWA;cBWI;cBWEE;cBWE
cSEBATBEIT FWA;cFWI;cFWEE;cFWE;cSEBATBEIT PWA;cPWI;cPWEE;cPWE;bTONAL MARK YIZET;dDERET;dRIKRIK
dSHORT RIKRIK;dDIFAT;dKENAT;dCHIRET;dHIDET;dDERET-HIDET;dKURT;@13A0;aCHEROKEE LETTER A;cE;cI;cO;cU
cV;cGA;cKA;cGE;cGI;cGO;cGU;cGV;cHA;cHE;cHI;cHO;cHU;cHV;cLA;cLE;cLI;cLO;cLU;cLV;cMA;cME;cMI;cMO;cMU
cNA;cHNA;cNAH;cNE;cNI;cNO;cNU;cNV;cQUA;cQUE;cQUI;cQUO;cQUU;cQUV;cSA;cS;cSE;cSI;cSO;cSU;cSV;cDA;cTA
cDE;cTE;cDI;cTI;cDO;cDU;cDV;cDLA;cTLA;cTLE;cTLI;cTLO;cTLU;cTLV;cTSA;cTSE;cTSI;cTSO;cTSU;cTSV;cWA
cWE;cWI;cWO;cWU;cWV;cYA;cYE;cYI;cYO;cYU;cYV;cMV;@13F8;bSMALL LETTER YE;dYI;dYO;dYU;dYV;dMV;@1400
aCANADIAN SYLLABICS HYPHEN;cE;cAAI;cI;cII;cO;cOO;cY-CREE OO;cCARRIER EE;dI;cA;cAA;cWE
cWEST-CREE WE;cWI;cWEST-CREE WI;cWII;cWEST-CREE WII;cWO;cWEST-CREE WO;cWOO;cWEST-CREE WOO
cNASKAPI WOO;cWA;cWEST-CREE WA;cWAA;cWEST-CREE WAA;cNASKAPI WAA;cAI;cY-CREE W;cGLOTTAL STOP
cFINAL ACUTE;dGRAVE;dBOTTOM HALF RING;dTOP HALF RING;dRIGHT HALF RING;dRING;dDOUBLE ACUTE
eSHORT VERTICAL STROKES;dMIDDLE DOT;dSHORT HORIZONTAL STROKE;dPLUS;dDOWN TACK;cEN;cIN;cON;cAN;cPE
cPAAI;cPI;cPII;cPO;cPOO;cY-CREE POO;cCARRIER HEE;dHI;cPA;cPAA;cPWE;cWEST-CREE PWE;cPWI
cWEST-CREE PWI;cPWII;cWEST-CREE PWII;cPWO;cWEST-CREE PWO;cPWOO;cWEST-CREE PWOO;cPWA;cWEST-CREE PWA
cPWAA;cWEST-CREE PWAA;cY-CREE PWAA;cP;cWEST-CREE P;cCARRIER H;cTE;cTAAI;cTI;cTII;cTO;cTOO
cY-CREE TOO;cCARRIER DEE;dDI;cTA;cTAA;cTWE;cWEST-CREE TWE;cTWI;cWEST-CREE TWI;cTWII
cWEST-CREE TWII;cTWO;cWEST-CREE TWO;cTWOO;cWEST-CREE TWOO;cTWA;cWEST-CREE TWA;cTWAA
cWEST-CREE TWAA;cNASKAPI TWAA;cT;cTTE;cTTI;cTTO;cTTA;cKE;cKAAI;cKI;cKII;cKO;cKOO;cY-CREE KOO;cKA
cKAA;cKWE;cWEST-CREE KWE;cKWI;cWEST-CREE KWI;cKWII;cWEST-CREE KWII;cKWO;cWEST-CREE KWO;cKWOO
cWEST-CREE KWOO;cKWA;cWEST-CREE KWA;cKWAA;cWEST-CREE KWAA;cNASKAPI KWAA;cK;cKW;cSOUTH-SLAVEY KEH
dKIH;dKOH;dKAH;cCE;cCAAI;cCI;cCII;cCO;cCOO;cY-CREE COO;cCA;cCAA;cCWE;cWEST-CREE CWE;cCWI
cWEST-CREE CWI;cCWII;cWEST-CREE CWII;cCWO;cWEST-CREE CWO;cCWOO;cWEST-CREE CWOO;cCWA;cWEST-CREE CWA
cCWAA;cWEST-CREE CWAA;cNASKAPI CWAA;cC;cSAYISI TH;cME;cMAAI;cMI;cMII;cMO;cMOO;cY-CREE MOO;cMA;cMAA
cMWE;cWEST-CREE MWE;cMWI;cWEST-CREE MWI;cMWII;cWEST-CREE MWII;cMWO;cWEST-CREE MWO;cMWOO
cWEST-CREE MWOO;cMWA;cWEST-CREE MWA;cMWAA;cWEST-CREE MWAA;cNASKAPI MWAA;cM;cWEST-CREE M;cMH
cATHAPASCAN M;cSAYISI M;cNE;cNAAI;cNI;cNII;cNO;cNOO;cY-CREE NOO;cNA;cNAA;cNWE;cWEST-CREE NWE;cNWA
cWEST-CREE NWA;cNWAA;cWEST-CREE NWAA;cNASKAPI NWAA;cN;cCARRIER NG;cNH;cLE;cLAAI;cLI;cLII;cLO;cLOO
cY-CREE LOO;cLA;cLAA;cLWE;cWEST-CREE LWE;cLWI;cWEST-CREE LWI;cLWII;cWEST-CREE LWII;cLWO
cWEST-CREE LWO;cLWOO;cWEST-CREE LWOO;cLWA;cWEST-CREE LWA;cLWAA;cWEST-CREE LWAA;cL;cWEST-CREE L
cMEDIAL L;cSE;cSAAI;cSI;cSII;cSO;cSOO;cY-CREE SOO;cSA;cSAA;cSWE;cWEST-CREE SWE;cSWI;cWEST-CREE SWI
cSWII;cWEST-CREE SWII;cSWO;cWEST-CREE SWO;cSWOO;cWEST-CREE SWOO;cSWA;cWEST-CREE SWA;cSWAA
cWEST-CREE SWAA;cNASKAPI SWAA;cS;cATHAPASCAN S;cSW;cBLACKFOOT S;cMOOSE-CREE SK;cNASKAPI SKW;dS-W
dSPWA;dSTWA;dSKWA;dSCWA;cSHE;cSHI;cSHII;cSHO;cSHOO;cSHA;cSHAA;cSHWE;cWEST-CREE SHWE;cSHWI
cWEST-CREE SHWI;cSHWII;cWEST-CREE SHWII;cSHWO;cWEST-CREE SHWO;cSHWOO;cWEST-CREE SHWOO;cSHWA
cWEST-CREE SHWA;cSHWAA;cWEST-CREE SHWAA;cSH;cYE;cYAAI;cYI;cYII;cYO;cYOO;cY-CREE YOO;cYA;cYAA;cYWE
cWEST-CREE YWE;cYWI;cWEST-CREE YWI;cYWII;cWEST-CREE YWII;cYWO;cWEST-CREE YWO;cYWOO;cWEST-CREE YWOO
cYWA;cWEST-CREE YWA;cYWAA;cWEST-CREE YWAA;cNASKAPI YWAA;cY;cBIBLE-CREE Y;cWEST-CREE Y;cSAYISI YI
cRE;cR-CREE RE;cWEST-CREE LE;cRAAI;cRI;cRII;cRO;cROO;cWEST-CREE LO;cRA;cRAA;cWEST-CREE LA;cRWAA
cWEST-CREE RWAA;cR;cWEST-CREE R;cMEDIAL R;cFE;cFAAI;cFI;cFII;cFO;cFOO;cFA;cFAA;cFWAA
cWEST-CREE FWAA;cF;cTHE;cN-CREE THE;cTHI;cN-CREE THI;cTHII;cN-CREE THII;cTHO;cTHOO;cTHA;cTHAA
cTHWAA;cWEST-CREE THWAA;cTH;cTTHE;cTTHI;cTTHO;cTTHA;cTTH;cTYE;cTYI;cTYO;cTYA;cNUNAVIK HE;dHI;dHII
dHO;dHOO;dHA;dHAA;dH;cNUNAVUT H;cHK;cQAAI;cQI;cQII;cQO;cQOO;cQA;cQAA;cQ;cTLHE;cTLHI;cTLHO;cTLHA
cWEST-CREE RE;dRI;dRO;dRA;cNGAAI;cNGI;cNGII;cNGO;cNGOO;cNGA;cNGAA;cNG;cNNG;cSAYISI SHE;dSHI;dSHO
dSHA;cWOODS-CREE THE;dTHI;dTHO;dTHA;dTH;cLHI;cLHII;cLHO;cLHOO;cLHA;cLHAA;cLH;cTH-CREE THE;dTHI
dTHII;dTHO;dTHOO;dTHA;dTHAA;dTH;cAIVILIK B;cBLACKFOOT E;dI;dO;dA;dWE;dWI;dWO;dWA;dNE;dNI;dNO;dNA
dKE;dKI;dKO;dKA;cSAYISI HE;dHI;dHO;dHA;cCARRIER GHU;dGHO;dGHE;dGHEE;dGHI;dGHA;dRU;dRO;dRE;dREE;dRI
dRA;dWU;dWO;dWE;dWEE;dWI;dWA;dHWU;dHWO;dHWE;dHWEE;dHWI;dHWA;dTHU;dTHO;dTHE;dTHEE;dTHI;dTHA;dTTU
dTTO;dTTE;dTTEE;dTTI;dTTA;dPU;dPO;dPE;dPEE;dPI;dPA;dP;dGU;dGO;dGE;dGEE;dGI;dGA;dKHU;dKHO;dKHE
dKHEE;dKHI;dKHA;dKKU;dKKO;dKKE;dKKEE;dKKI;dKKA;dKK;dNU;dNO;dNE;dNEE;dNI;dNA;dMU;dMO;dME;dMEE;dMI
dMA;dYU;dYO;dYE;dYEE;dYI;dYA;dJU;cSAYISI JU;cCARRIER JO;dJE;dJEE;dJI;cSAYISI JI;cCARRIER JA;dJJU
dJJO;dJJE;dJJEE;dJJI;dJJA;dLU;dLO;dLE;dLEE;dLI;dLA;dDLU;dDLO;dDLE;dDLEE;dDLI;dDLA;dLHU;dLHO;dLHE
dLHEE;dLHI;dLHA;dTLHU;dTLHO;dTLHE;dTLHEE;dTLHI;dTLHA;dTLU;dTLO;dTLE;dTLEE;dTLI;dTLA;dZU;dZO;dZE
dZEE;dZI;dZA;dZ;dINITIAL Z;dDZU;dDZO;dDZE;dDZEE;dDZI;dDZA;dSU;dSO;dSE;dSEE;dSI;dSA;dSHU;dSHO;dSHE
dSHEE;dSHI;dSHA;dSH;dTSU;dTSO;dTSE;dTSEE;dTSI;dTSA;dCHU;dCHO;dCHE;dCHEE;dCHI;dCHA;dTTSU;dTTSO
dTTSE;dTTSEE;dTTSI;dTTSA;cCHI SIGN;cFULL STOP;cQAI;cNGAI;cNNGI;cNNGII;cNNGO;cNNGOO;cNNGA;cNNGAA
cWOODS-CREE THWEE;dTHWI;dTHWII;dTHWO;dTHWOO;dTHWA;dTHWAA;dFINAL TH;cBLACKFOOT W;aOGHAM SPACE MARK
bLETTER BEITH;cLUIS;cFEARN;cSAIL;cNION;cUATH;cDAIR;cTINNE;cCOLL;cCEIRT;cMUIN;cGORT;cNGEADAL
cSTRAIF;cRUIS;cAILM;cONN;cUR;cEADHADH;cIODHADH;cEABHADH;cOR;cUILLEANN;cIFIN;cEAMHANCHOLL;cPEITH
bFEATHER MARK;bREVERSED FEATHER MARK;@16A0;aRUNIC LETTER FEHU FEOH FE F;cV;cURUZ UR U;cYR;cY;cW
cTHURISAZ THURS THORN;cETH;cANSUZ A;cOS O;cAC A;cAESC;cLONG-BRANCH-OSS O;cSHORT-TWIG-OSS O;cO;cOE
cON;cRAIDO RAD REID R;cKAUNA;cCEN;cKAUN K;cG;cENG;cGEBO GYFU G;cGAR;cWUNJO WYNN W;cHAGLAZ H
cHAEGL H;cLONG-BRANCH-HAGALL H;cSHORT-TWIG-HAGALL H;cNAUDIZ NYD NAUD N;cSHORT-TWIG-NAUD N
cDOTTED-N;cISAZ IS ISS I;cE;cJERAN J;cGER;cLONG-BRANCH-AR AE;cSHORT-TWIG-AR A;cIWAZ EOH
cPERTHO PEORTH P;cALGIZ EOLHX;cSOWILO S;cSIGEL LONG-BRANCH-SOL S;cSHORT-TWIG-SOL S;cC;cZ
cTIWAZ TIR TYR T;cSHORT-TWIG-TYR T;cD;cBERKANAN BEORC BJARKAN B;cSHORT-TWIG-BJARKAN B;cDOTTED-P
cOPEN-P;cEHWAZ EH E;cMANNAZ MAN M;cLONG-BRANCH-MADR M;cSHORT-TWIG-MADR M;cLAUKAZ LAGU LOGR L
cDOTTED-L;cINGWAZ;cING;cDAGAZ DAEG D;cOTHALAN ETHEL O;cEAR;cIOR;cCWEORTH;cCALC;cCEALC;cSTAN
cLONG-BRANCH-YR;cSHORT-TWIG-YR;cICELANDIC-YR;cQ;cX;bSINGLE PUNCTUATION;bMULTIPLE PUNCTUATION
bCROSS PUNCTUATION;bARLAUG SYMBOL;bTVIMADUR SYMBOL;bBELGTHOR SYMBOL;bLETTER K;cSH;cOO
cFRANKS CASKET OS;eIS;eEH;eAC;eAESC;@1700;aTAGALOG LETTER A;cI;cU;cKA;cGA;cNGA;cTA;cDA;cNA;cPA;cBA
cMA;cYA;cRA;cLA;cWA;cSA;cHA;bVOWEL SIGN I;dU;bSIGN VIRAMA;cPAMUDPOD;@171F;bLETTER ARCHAIC RA
aHANUNOO LETTER A;cI;cU;cKA;cGA;cNGA;cTA;cDA;cNA;cPA;cBA;cMA;cYA;cRA;cLA;cWA;cSA;cHA;bVOWEL SIGN I
dU;bSIGN PAMUDPOD;aPHILIPPINE SINGLE PUNCTUATION;bDOUBLE PUNCTUATION;@1740;aBUHID LETTER A;cI;cU
cKA;cGA;cNGA;cTA;cDA;cNA;cPA;cBA;cMA;cYA;cRA;cLA;cWA;cSA;cHA;bVOWEL SIGN I;dU;@1760
aTAGBANWA LETTER A;cI;cU;cKA;cGA;cNGA;cTA;cDA;cNA;cPA;cBA;cMA;cYA;@176E;cLA;cWA;cSA;@1772
bVOWEL SIGN I;dU;@1780;aKHMER LETTER KA;cKHA;cKO;cKHO;cNGO;cCA;cCHA;cCO;cCHO;cNYO;cDA;cTTHA;cDO
cTTHO;cNNO;cTA;cTHA;cTO;cTHO;cNO;cBA;cPHA;cPO;cPHO;cMO;cYO;cRO;cLO;cVO;cSHA;cSSO;cSA;cHA;cLA;cQA
bINDEPENDENT VOWEL QAQ;dQAA;dQI;dQII;dQU;dQUK;dQUU;dQUUV;dRY;dRYY;dLY;dLYY;dQE;dQAI;dQOO TYPE ONE
fTWO;dQAU;bVOWEL INHERENT AQ;dAA;cSIGN AA;dI;dII;dY;dYY;dU;dUU;dUA;dOE;dYA;dIE;dE;dAE;dAI;dOO;dAU
bSIGN NIKAHIT;cREAHMUK;cYUUKALEAPINTU;cMUUSIKATOAN;cTRIISAP;cBANTOC;cROBAT;cTOANDAKHIAT;cKAKABAT
cAHSDA;cSAMYOK SANNYA;cVIRIAM;cCOENG;cBATHAMASAT;cKHAN;cBARIYOOSAN;cCAMNUC PII KUUH;cLEK TOO
cBEYYAL;cPHNAEK MUAN;cKOOMUUT;bCURRENCY SYMBOL RIEL;bSIGN AVAKRAHASANYA;cATTHACAN;@17E0
bDIGIT ZERO;cONE;cTWO;cTHREE;cFOUR;cFIVE;cSIX;cSEVEN;cEIGHT;cNINE;@17F0;bSYMBOL LEK ATTAK SON
eMUOY;ePII;eBEI;eBUON;ePRAM;ePRAM-MUOY;ePRAM-PII;ePRAM-BEI;ePRAM-BUON;@1800;aMONGOLIAN BIRGA
bELLIPSIS;bCOMMA;bFULL STOP;bCOLON;bFOUR DOTS;bTODO SOFT HYPHEN;bSIBE SYLLABLE BOUNDARY MARKER
bMANCHU COMMA;cFULL STOP;bNIRUGU;bFREE VARIATION SELECTOR ONE;eTWO;eTHREE;bVOWEL SEPARATOR
bFREE VARIATION SELECTOR FOUR;bDIGIT ZERO;cONE;cTWO;cTHREE;cFOUR;cFIVE;cSIX;cSEVEN;cEIGHT;cNINE
@1820;bLETTER A;cE;cI;cO;cU;cOE;cUE;cEE;cNA;cANG;cBA;cPA;cQA;cGA;cMA;cLA;cSA;cSHA;cTA;cDA;cCHA;cJA
cYA;cRA;cWA;cFA;cKA;cKHA;cTSA;cZA;cHAA;cZRA;cLHA;cZHI;cCHI;cTODO LONG VOWEL SIGN;dE;dI;dO;dU;dOE
dUE;dANG;dBA;dPA;dQA;dGA;dMA;dTA;dDA;dCHA;dJA;dTSA;dYA;dWA;dKA;dGAA;dHAA;dJIA;dNIA;dDZA;cSIBE E;dI
dIY;dUE;dU;dANG;dKA;dGA;dHA;dPA;dSHA;dTA;dDA;dJA;dFA;dGAA;dHAA;dTSA;dZA;dRAA;dCHA;dZHA;cMANCHU I
dKA;dRA;dFA;dZHA;cCHA WITH TWO DOTS;@1880;cALI GALI ANUSVARA ONE;eVISARGA ONE;eDAMARU;eUBADAMA
eINVERTED UBADAMA;eBALUDA;eTHREE BALUDA;eA;eI;eKA;eNGA;eCA;eTTA;eTTHA;eDDA;eNNA;eTA;eDA;ePA;ePHA
eSSA;eZHA;eZA;eAH;cTODO ALI GALI TA;fZHA;cMANCHU ALI GALI GHA;fNGA;fCA;fJHA;fTTA;fDDHA;fTA;fDHA
fSSA;fCYA;fZHA;fZA;cALI GALI HALF U;fYA;cMANCHU ALI GALI BHA;cALI GALI DAGALGA
cMANCHU ALI GALI LHA;@18B0;aCANADIAN SYLLABICS OY;cAY;cAAY;cWAY;cPOY;cPAY;cPWOY;cTAY;cKAY;cKWAY
cMAY;cNOY;cNAY;cLAY;cSOY;cSAY;cSHOY;cSHAY;cSHWOY;cYOY;cYAY;cRAY;cNWI;cOJIBWAY NWI;cNWII
cOJIBWAY NWII;cNWO;cOJIBWAY NWO;cNWOO;cOJIBWAY NWOO;cRWEE;cRWI;cRWII;cRWO;cRWOO;cRWA;cOJIBWAY P;dT
dK;dC;dM;dN;dS;dSH;cEASTERN W;cWESTERN W;cFINAL SMALL RING;dRAISED DOT;cR-CREE RWE;cWEST-CREE LOO
dLAA;cTHWE;cTHWA;cTTHWE;cTTHOO;cTTHAA;cTLHWE;cTLHOO;cSAYISI SHWE;dSHOO;dHOO;cCARRIER GWU;dDENE GEE
dGAA;dGWA;cSAYISI JUU;cCARRIER JWA;cBEAVER DENE L;eR;cCARRIER DENTAL S;@1900
aLIMBU VOWEL-CARRIER LETTER;bLETTER KA;cKHA;cGA;cGHA;cNGA;cCA;cCHA;cJA;cJHA;cYAN;cTA;cTHA;cDA;cDHA
cNA;cPA;cPHA;cBA;cBHA;cMA;cYA;cRA;cLA;cWA;cSHA;cSSA;cSA;cHA;cGYAN;cTRA;@1920;bVOWEL SIGN A;dI;dU
dEE;dAI;dOO;dAU;dE;dO;bSUBJOINED LETTER YA;dRA;dWA;@1930;bSMALL LETTER KA;dNGA;dANUSVARA;dTA;dNA
dPA;dMA;dRA;dLA;bSIGN MUKPHRENG;cKEMPHRENG;cSA-I;@1940;cLOO;@1944;bEXCLAMATION MARK;bQUESTION MARK
bDIGIT ZERO;cONE;cTWO;cTHREE;cFOUR;cFIVE;cSIX;cSEVEN;cEIGHT;cNINE;aTAI LE LETTER KA;dXA;dNGA;dTSA
dSA;dYA;dTA;dTHA;dLA;dPA;dPHA;dMA;dFA;dVA;dHA;dQA;dKHA;dTSHA;dNA;dA;dI;dEE;dEH;dU;dOO;dO;dUE;dE
dAUE;dAI;@1970;dTONE-2;dTONE-3;dTONE-4;dTONE-5;dTONE-6;@1980;aNEW TAI LUE LETTER HIGH QA;eLOW QA
eHIGH KA;fXA;fNGA;eLOW KA;fXA;fNGA;eHIGH TSA;fSA;fYA;eLOW TSA;fSA;fYA;eHIGH TA;fTHA;fNA;eLOW TA
fTHA;fNA;eHIGH PA;fPHA;fMA;eLOW PA;fPHA;fMA;eHIGH FA;fVA;fLA;eLOW FA;fVA;fLA;eHIGH HA;fDA;fBA
eLOW HA;fDA;fBA;eHIGH KVA;fXVA;eLOW KVA;fXVA;eHIGH SUA;eLOW SUA;@19B0;dVOWEL SIGN VOWEL SHORTENER
fAA;fII;fU;fUU;fE;fAE;fO;fOA;fUE;fAY;fAAY;fUY;fOY;fOAY;fUEY;fIY;dLETTER FINAL V;fNG;fN;fM;fK;fD;fB
dTONE MARK-1;eMARK-2;@19D0;dDIGIT ZERO;eONE;eTWO;eTHREE;eFOUR;eFIVE;eSIX;eSEVEN;eEIGHT;eNINE
dTHAM DIGIT ONE;@19DE;dSIGN LAE;eLAEV;aKHMER SYMBOL PATHAMASAT;cMUOY KOET;cPII KOET;cBEI KOET
cBUON KOET;cPRAM KOET;cPRAM-MUOY KOET;cPRAM-PII KOET;cPRAM-BEI KOET;cPRAM-BUON KOET;cDAP KOET
cDAP-MUOY KOET;cDAP-PII KOET;cDAP-BEI KOET;cDAP-BUON KOET;cDAP-PRAM KOET;cTUTEYASAT;cMUOY ROC
cPII ROC;cBEI ROC;cBUON ROC;cPRAM ROC;cPRAM-MUOY ROC;cPRAM-PII ROC;cPRAM-BEI ROC;cPRAM-BUON ROC
cDAP ROC;cDAP-MUOY ROC;cDAP-PII ROC;cDAP-BEI ROC;cDAP-BUON ROC;cDAP-PRAM ROC;aBUGINESE LETTER KA
cGA;cNGA;cNGKA;cPA;cBA;cMA;cMPA;cTA;cDA;cNA;cNRA;cCA;cJA;cNYA;cNYCA;cYA;cRA;cLA;cVA;cSA;cA;cHA
bVOWEL SIGN I;dU;dE;dO;dAE;@1A1E;bPALLAWA;bEND OF SECTION;aTAI THAM LETTER HIGH KA;eKHA;eKXA
dLOW KA;eKXA;eKHA;dNGA;dHIGH CA;eCHA;dLOW CA;eSA;eCHA;dNYA;dRATA;dHIGH RATHA;dDA;dLOW RATHA;dRANA
dHIGH TA;eTHA;dLOW TA;eTHA;dNA;dBA;dHIGH PA;ePHA;eFA;dLOW PA;eFA;ePHA;dMA;dLOW YA;dHIGH YA;dRA
dRUE;dLA;dLUE;dWA;dHIGH SHA;eSSA;eSA;eHA;dLLA;dA;dLOW HA;dI;dII;dU;dUU;dEE;dOO;dLAE;dGREAT SA
cCONSONANT SIGN MEDIAL RA;fLA;eLA TANG LAI;cSIGN MAI KANG LAI;cCONSONANT SIGN FINAL NGA;eLOW PA
eHIGH RATHA OR LOW PA;eMA;eBA;eSA;@1A60;cSIGN SAKOT;cVOWEL SIGN A;eMAI SAT;eAA;eTALL AA;eI;eII;eUE
eUUE;eU;eUU;eO;eOA BELOW;eOY;eE;eAE;eOO;eAI;eTHAM AI;eOA ABOVE;cSIGN MAI KANG;dTONE-1;dTONE-2
dKHUEN TONE-3;eTONE-4;eTONE-5;dRA HAAM;dMAI SAM;dKHUEN-LUE KARAN;@1A7F
cCOMBINING CRYPTOGRAMMIC DOT;cHORA DIGIT ZERO;eONE;eTWO;eTHREE;eFOUR;eFIVE;eSIX;eSEVEN;eEIGHT
eNINE;@1A90;cTHAM DIGIT ZERO;eONE;eTWO;eTHREE;eFOUR;eFIVE;eSIX;eSEVEN;eEIGHT;eNINE;@1AA0
cSIGN WIANG;dWIANGWAAK;dSAWAN;dKEOW;dHOY;dDOKMAI;dREVERSED ROTATED RANA;dMAI YAMOK;dKAAN;dKAANKUU
dSATKAAN;dSATKAANKUU;dHANG;dCAANG;@1AB0;aCOMBINING DOUBLED CIRCUMFLEX ACCENT;bDIAERESIS-RING
bINFINITY;bDOWNWARDS ARROW;bTRIPLE DOT;bX-X BELOW;bWIGGLY LINE BELOW;bOPEN MARK BELOW
bDOUBLE OPEN MARK BELOW;bLIGHT CENTRALIZATION STROKE BELOW;bSTRONG CENTRALIZATION STROKE BELOW
bPARENTHESES ABOVE;bDOUBLE PARENTHESES ABOVE;bPARENTHESES BELOW;cOVERLAY
bLATIN SMALL LETTER W BELOW;eTURNED W BELOW;bLEFT PARENTHESIS ABOVE LEFT
bRIGHT PARENTHESIS ABOVE RIGHT;bLEFT PARENTHESIS BELOW LEFT;bRIGHT PARENTHESIS BELOW RIGHT
bSQUARE BRACKETS ABOVE;bNUMBER SIGN ABOVE;bINVERTED DOUBLE ARCH ABOVE;bPLUS SIGN ABOVE
bDOUBLE PLUS SIGN ABOVE;eBELOW;bTRIPLE ACUTE ACCENT;bLATIN SMALL LETTER INSULAR G;fR;fT;@1B00
aBALINESE SIGN ULU RICEM;dCANDRA;cCECEK;cSURANG;cBISAH;bLETTER AKARA;dTEDUNG;cIKARA;dTEDUNG;cUKARA
dTEDUNG;cRA REPA;eTEDUNG;cLA LENGA;eTEDUNG;cEKARA;cAIKARA;cOKARA;dTEDUNG;cKA;dMAHAPRANA;cGA;dGORA
cNGA;cCA;dLACA;cJA;dJERA;cNYA;cTA LATIK;dMURDA MAHAPRANA;cDA MURDA ALPAPRANA;eMAHAPRANA;cNA RAMBAT
cTA;dTAWA;cDA;dMADU;cNA;cPA;dKAPAL;cBA;dKEMBANG;cMA;cYA;cRA;cLA;cWA;cSA SAGA;dSAPA;cSA;cHA
bSIGN REREKAN;bVOWEL SIGN TEDUNG;dULU;eSARI;dSUKU;eILUT;dRA REPA;fTEDUNG;dLA LENGA;fTEDUNG;dTALING
eREPA;eTEDUNG;eREPA TEDUNG;dPEPET;eTEDUNG;bADEG ADEG;bLETTER KAF SASAK;cKHOT SASAK;cTZIR SASAK
cEF SASAK;cVE SASAK;cZAL SASAK;cASYURA SASAK;cARCHAIC JNYA;@1B50;bDIGIT ZERO;cONE;cTWO;cTHREE
cFOUR;cFIVE;cSIX;cSEVEN;cEIGHT;cNINE;bPANTI;bPAMADA;bWINDU;bCARIK PAMUNGKAH;cSIKI;cPAREREN
bPAMENENG;bMUSICAL SYMBOL DONG;dDENG;dDUNG;dDANG;eSURANG;dDING;dDAENG;dDEUNG;dDAING;dDANG GEDE
dCOMBINING TEGEH;eENDEP;eKEMPUL;eKEMPLI;eJEGOGAN;eKEMPUL WITH JEGOGAN;eKEMPLI WITH JEGOGAN;eBENDE
eGONG;dRIGHT-HAND OPEN DUG;fDAG;eCLOSED TUK;fTAK;dLEFT-HAND OPEN PANG;fPUNG;eCLOSED PLAK;fPLUK
eOPEN PING;bPANTI LANTANG;bPAMADA LANTANG;@1B80;aSUNDANESE SIGN PANYECEK;cPANGLAYAR;cPANGWISAD
bLETTER A;cI;cU;cAE;cO;cE;cEU;cKA;cQA;cGA;cNGA;cCA;cJA;cZA;cNYA;cTA;cDA;cNA;cPA;cFA;cVA;cBA;cMA
cYA;cRA;cLA;cWA;cSA;cXA;cHA;bCONSONANT SIGN PAMINGKAL;dPANYAKRA;dPANYIKU;bVOWEL SIGN PANGHULU
dPANYUKU;dPANAELAENG;dPANOLONG;dPAMEPET;dPANEULEUNG;bSIGN PAMAAEH;cVIRAMA
bCONSONANT SIGN PASANGAN MA;eWA;bLETTER KHA;cSYA;bDIGIT ZERO;cONE;cTWO;cTHREE;cFOUR;cFIVE;cSIX
cSEVEN;cEIGHT;cNINE;bAVAGRAHA;bLETTER REU;cLEU;cBHA;cFINAL K;dM;aBATAK LETTER A;cSIMALUNGUN A;cHA
cSIMALUNGUN HA;cMANDAILING HA;cBA;cKARO BA;cPA;cSIMALUNGUN PA;cNA;cMANDAILING NA;cWA
cSIMALUNGUN WA;cPAKPAK WA;cGA;cSIMALUNGUN GA;cJA;cDA;cRA;cSIMALUNGUN RA;cMA;cSIMALUNGUN MA
cSOUTHERN TA;cNORTHERN TA;cSA;cSIMALUNGUN SA;cMANDAILING SA;cYA;cSIMALUNGUN YA;cNGA;cLA
cSIMALUNGUN LA;cNYA;cCA;cNDA;cMBA;cI;cU;bSIGN TOMPI;bVOWEL SIGN E;dPAKPAK E;dEE;dI;dKARO I;dO
dKARO O;dU;eFOR SIMALUNGUN SA;bCONSONANT SIGN NG;dH;bPANGOLAT;bPANONGONAN;@1BFC
bSYMBOL BINDU NA METEK;dPINARBORAS;dJUDUL;dPANGOLAT;aLEPCHA LETTER KA;cKLA;cKHA;cGA;cGLA;cNGA;cCA
cCHA;cJA;cNYA;cTA;cTHA;cDA;cNA;cPA;cPLA;cPHA;cFA;cFLA;cBA;cBLA;cMA;cMLA;cTSA;cTSHA;cDZA;cYA;cRA
cLA;cHA;cHLA;cVA;cSA;cSHA;cWA;cA;bSUBJOINED LETTER YA;dRA;bVOWEL SIGN AA;dI;dO;dOO;dU;dUU;dE
bCONSONANT SIGN K;dM;dL;dN;dP;dR;dT;dNYIN-DO;dKANG;bSIGN RAN;cNUKTA;@1C3B;bPUNCTUATION TA-ROL
cNYET THYOOM TA-ROL;cCER-WA;cTSHOOK CER-WA;cTSHOOK;bDIGIT ZERO;cONE;cTWO;cTHREE;cFOUR;cFIVE;cSIX
cSEVEN;cEIGHT;cNINE;@1C4D;bLETTER TTA;cTTHA;cDDA;aOL CHIKI DIGIT ZERO;dONE;dTWO;dTHREE;dFOUR;dFIVE
dSIX;dSEVEN;dEIGHT;dNINE;cLETTER LA;dAT;dAG;dANG;dAL;dLAA;dAAK;dAAJ;dAAM;dAAW;dLI;dIS;dIH;dINY;dIR
dLU;dUC;dUD;dUNN;dUY;dLE;dEP;dEDD;dEN;dERR;dLO;dOTT;dOB;dOV;dOH;cMU TTUDDAG;cGAAHLAA TTUDDAAG
cMU-GAAHLAA TTUDDAAG;cRELAA;cPHAARKAA;cAHAD;cPUNCTUATION MUCAAD;dDOUBLE MUCAAD
aCYRILLIC SMALL LETTER ROUNDED VE;dLONG-LEGGED DE;dNARROW O;dWIDE ES;dTALL TE;dTHREE-LEGGED TE
dTALL HARD SIGN;eYAT;dUNBLENDED UK;@1C90;aGEORGIAN MTAVRULI CAPITAL LETTER AN;eBAN;eGAN;eDON;eEN
eVIN;eZEN;eTAN;eIN;eKAN;eLAS;eMAN;eNAR;eON;ePAR;eZHAR;eRAE;eSAN;eTAR;eUN;ePHAR;eKHAR;eGHAN;eQAR
eSHIN;eCHIN;eCAN;eJIL;eCIL;eCHAR;eXAN;eJHAN;eHAE;eHE;eHIE;eWE;eHAR;eHOE;eFI;eYN;eELIFI;eTURNED GAN
eAIN;@1CBD;eAEN;eHARD SIGN;eLABIAL SIGN;aSUNDANESE PUNCTUATION BINDU SURYA;dPANGLONG;dPURNAMA
dCAKRA;dLEU SATANGA;dKA SATANGA;dDA SATANGA;dBA SATANGA;@1CD0;aVEDIC TONE KARSHANA;cSHARA;cPRENKHA
bSIGN NIHSHVASA;cYAJURVEDIC MIDLINE SVARITA;bTONE YAJURVEDIC AGGRAVATED INDEPENDENT SVARITA
dINDEPENDENT SVARITA;dKATHAKA INDEPENDENT SVARITA;cCANDRA BELOW
cYAJURVEDIC KATHAKA INDEPENDENT SVARITA SCHROEDER;cDOUBLE SVARITA;cTRIPLE SVARITA
cKATHAKA ANUDATTA;cDOT BELOW;cTWO DOTS BELOW;cTHREE DOTS BELOW
cRIGVEDIC KASHMIRI INDEPENDENT SVARITA;cATHARVAVEDIC INDEPENDENT SVARITA;bSIGN VISARGA SVARITA
dUDATTA;cREVERSED VISARGA UDATTA;cVISARGA ANUDATTA;cREVERSED VISARGA ANUDATTA
cVISARGA UDATTA WITH TAIL;dANUDATTA WITH TAIL;cANUSVARA ANTARGOMUKHA;dBAHIRGOMUKHA;dVAMAGOMUKHA
eWITH TAIL;cTIRYAK;cHEXIFORM LONG ANUSVARA;cLONG ANUSVARA;cRTHANG LONG ANUSVARA
cANUSVARA UBHAYATO MUKHA;cARDHAVISARGA;cROTATED ARDHAVISARGA;bTONE CANDRA ABOVE;bSIGN JIHVAMULIYA
cUPADHMANIYA;cATIKRAMA;bTONE RING ABOVE;cDOUBLE RING ABOVE;bSIGN DOUBLE ANUSVARA ANTARGOMUKHA
@1D00;aLATIN LETTER SMALL CAPITAL A;eAE;bSMALL LETTER TURNED AE;bLETTER SMALL CAPITAL BARRED B;eC
eD;eETH;eE;bSMALL LETTER TURNED OPEN E;eI;bLETTER SMALL CAPITAL J;eK;eL WITH STROKE;eM;eREVERSED N
eO;eOPEN O;bSMALL LETTER SIDEWAYS O;eOPEN O;eO WITH STROKE;dTURNED OE;bLETTER SMALL CAPITAL OU
bSMALL LETTER TOP HALF O;dBOTTOM HALF O;bLETTER SMALL CAPITAL P;eREVERSED R;eTURNED R;eT;eU
bSMALL LETTER SIDEWAYS U;eDIAERESIZED U;eTURNED M;bLETTER SMALL CAPITAL V;eW;eZ;eEZH
cVOICED LARYNGEAL SPIRANT;cAIN;aGREEK LETTER SMALL CAPITAL GAMMA;eLAMDA;ePI;eRHO;ePSI
aCYRILLIC LETTER SMALL CAPITAL EL;aMODIFIER LETTER CAPITAL A;dAE;dB;dBARRED B;dD;dE;dREVERSED E;dG
dH;dI;dJ;dK;dL;dM;dN;dREVERSED N;dO;dOU;dP;dR;dT;dU;dW;cSMALL A;dTURNED A;dALPHA;dTURNED AE;dB;dD
dE;dSCHWA;dOPEN E;dTURNED OPEN E;dG;dTURNED I;dK;dM;dENG;dO;dOPEN O;dTOP HALF O;dBOTTOM HALF O;dP
dT;dU;dSIDEWAYS U;dTURNED M;dV;dAIN;dBETA;dGREEK GAMMA;dDELTA;dGREEK PHI;dCHI
aLATIN SUBSCRIPT SMALL LETTER I;eR;eU;eV;aGREEK SUBSCRIPT SMALL LETTER BETA;eGAMMA;eRHO;ePHI;eCHI
aLATIN SMALL LETTER UE;dB WITH MIDDLE TILDE;dD WITH MIDDLE TILDE;dF WITH MIDDLE TILDE
dM WITH MIDDLE TILDE;dN WITH MIDDLE TILDE;dP WITH MIDDLE TILDE;dR WITH MIDDLE TILDE
fFISHHOOK AND MIDDLE TILDE;dS WITH MIDDLE TILDE;dT WITH MIDDLE TILDE;dZ WITH MIDDLE TILDE
dTURNED G;aMODIFIER LETTER CYRILLIC EN;aLATIN SMALL LETTER INSULAR G;dTH WITH STRIKETHROUGH
cCAPITAL LETTER I WITH STROKE;cLETTER IOTA WITH STROKE;dP WITH STROKE
cCAPITAL LETTER U WITH STROKE;cLETTER UPSILON WITH STROKE;dB WITH PALATAL HOOK
dD WITH PALATAL HOOK;dF WITH PALATAL HOOK;dG WITH PALATAL HOOK;dK WITH PALATAL HOOK
dL WITH PALATAL HOOK;dM WITH PALATAL HOOK;dN WITH PALATAL HOOK;dP WITH PALATAL HOOK
dR WITH PALATAL HOOK;dS WITH PALATAL HOOK;dESH WITH PALATAL HOOK;dV WITH PALATAL HOOK
dX WITH PALATAL HOOK;dZ WITH PALATAL HOOK;dA WITH RETROFLEX HOOK;dALPHA WITH RETROFLEX HOOK
dD WITH HOOK AND TAIL;dE WITH RETROFLEX HOOK;dOPEN E WITH RETROFLEX HOOK
dREVERSED OPEN E WITH RETROFLEX HOOK;dSCHWA WITH RETROFLEX HOOK;dI WITH RETROFLEX HOOK
dOPEN O WITH RETROFLEX HOOK;dESH WITH RETROFLEX HOOK;dU WITH RETROFLEX HOOK
dEZH WITH RETROFLEX HOOK;aMODIFIER LETTER SMALL TURNED ALPHA;dC;eWITH CURL;dETH;dREVERSED OPEN E
dF;dDOTLESS J WITH STROKE;dSCRIPT G;dTURNED H;dI WITH STROKE;dIOTA;dCAPITAL I;fWITH STROKE
dJ WITH CROSSED-TAIL;dL WITH RETROFLEX HOOK;fPALATAL HOOK;dCAPITAL L;dM WITH HOOK
dTURNED M WITH LONG LEG;dN WITH LEFT HOOK;fRETROFLEX HOOK;dCAPITAL N;dBARRED O;dPHI;dS WITH HOOK
dESH;dT WITH PALATAL HOOK;dU BAR;dUPSILON;dCAPITAL U;dV WITH HOOK;dTURNED V;dZ
eWITH RETROFLEX HOOK;fCURL;dEZH;dTHETA;aCOMBINING DOTTED GRAVE ACCENT;cACUTE ACCENT;bSNAKE BELOW
bSUSPENSION MARK;bMACRON-ACUTE;bGRAVE-MACRON;bMACRON-GRAVE;bACUTE-MACRON;bGRAVE-ACUTE-GRAVE
bACUTE-GRAVE-ACUTE;bLATIN SMALL LETTER R BELOW;bBREVE-MACRON;bMACRON-BREVE
bDOUBLE CIRCUMFLEX ABOVE;bOGONEK ABOVE;bZIGZAG BELOW;bIS BELOW;bUR ABOVE;bUS ABOVE
bLATIN SMALL LETTER FLATTENED OPEN A ABOVE;eAE;eAO;eAV;eC CEDILLA;eINSULAR D;eETH;eG
cLETTER SMALL CAPITAL G;cSMALL LETTER K;eL;cLETTER SMALL CAPITAL L;fM;cSMALL LETTER N
cLETTER SMALL CAPITAL N;fR;cSMALL LETTER R ROTUNDA;eS;eLONG S;eZ;eALPHA;eB;eBETA;eSCHWA;eF
eL WITH DOUBLE MIDDLE TILDE;eO WITH LIGHT CENTRALIZATION STROKE;eP;eESH
eU WITH LIGHT CENTRALIZATION STROKE;eW;eA WITH DIAERESIS;eO WITH DIAERESIS;eU WITH DIAERESIS
bUP TACK ABOVE;bKAVYKA ABOVE RIGHT;dLEFT;bDOT ABOVE LEFT;bWIDE INVERTED BRIDGE BELOW
bDOT BELOW LEFT;bDELETION MARK;bDOUBLE INVERTED BREVE BELOW;bALMOST EQUAL TO BELOW
bLEFT ARROWHEAD ABOVE;bRIGHT ARROWHEAD AND DOWN ARROWHEAD BELOW
aLATIN CAPITAL LETTER A WITH RING BELOW;bSMALL LETTER A WITH RING BELOW
bCAPITAL LETTER B WITH DOT ABOVE;bSMALL LETTER B WITH DOT ABOVE;bCAPITAL LETTER B WITH DOT BELOW
bSMALL LETTER B WITH DOT BELOW;bCAPITAL LETTER B WITH LINE BELOW;bSMALL LETTER B WITH LINE BELOW
bCAPITAL LETTER C WITH CEDILLA AND ACUTE;bSMALL LETTER C WITH CEDILLA AND ACUTE
bCAPITAL LETTER D WITH DOT ABOVE;bSMALL LETTER D WITH DOT ABOVE;bCAPITAL LETTER D WITH DOT BELOW
bSMALL LETTER D WITH DOT BELOW;bCAPITAL LETTER D WITH LINE BELOW;bSMALL LETTER D WITH LINE BELOW
bCAPITAL LETTER D WITH CEDILLA;bSMALL LETTER D WITH CEDILLA
bCAPITAL LETTER D WITH CIRCUMFLEX BELOW;bSMALL LETTER D WITH CIRCUMFLEX BELOW
bCAPITAL LETTER E WITH MACRON AND GRAVE;bSMALL LETTER E WITH MACRON AND GRAVE
bCAPITAL LETTER E WITH MACRON AND ACUTE;bSMALL LETTER E WITH MACRON AND ACUTE
bCAPITAL LETTER E WITH CIRCUMFLEX BELOW;bSMALL LETTER E WITH CIRCUMFLEX BELOW
bCAPITAL LETTER E WITH TILDE BELOW;bSMALL LETTER E WITH TILDE BELOW
bCAPITAL LETTER E WITH CEDILLA AND BREVE;bSMALL LETTER E WITH CEDILLA AND BREVE
bCAPITAL LETTER F WITH DOT ABOVE;bSMALL LETTER F WITH DOT ABOVE;bCAPITAL LETTER G WITH MACRON
bSMALL LETTER G WITH MACRON;bCAPITAL LETTER H WITH DOT ABOVE;bSMALL LETTER H WITH DOT ABOVE
bCAPITAL LETTER H WITH DOT BELOW;bSMALL LETTER H WITH DOT BELOW;bCAPITAL LETTER H WITH DIAERESIS
bSMALL LETTER H WITH DIAERESIS;bCAPITAL LETTER H WITH CEDILLA;bSMALL LETTER H WITH CEDILLA
bCAPITAL LETTER H WITH BREVE BELOW;bSMALL LETTER H WITH BREVE BELOW
bCAPITAL LETTER I WITH TILDE BELOW;bSMALL LETTER I WITH TILDE BELOW
bCAPITAL LETTER I WITH DIAERESIS AND ACUTE;bSMALL LETTER I WITH DIAERESIS AND ACUTE
bCAPITAL LETTER K WITH ACUTE;bSMALL LETTER K WITH ACUTE;bCAPITAL LETTER K WITH DOT BELOW
bSMALL LETTER K WITH DOT BELOW;bCAPITAL LETTER K WITH LINE BELOW;bSMALL LETTER K WITH LINE BELOW
bCAPITAL LETTER L WITH DOT BELOW;bSMALL LETTER L WITH DOT BELOW
bCAPITAL LETTER L WITH DOT BELOW AND MACRON;bSMALL LETTER L WITH DOT BELOW AND MACRON
bCAPITAL LETTER L WITH LINE BELOW;bSMALL LETTER L WITH LINE BELOW
bCAPITAL LETTER L WITH CIRCUMFLEX BELOW;bSMALL LETTER L WITH CIRCUMFLEX BELOW
bCAPITAL LETTER M WITH ACUTE;bSMALL LETTER M WITH ACUTE;bCAPITAL LETTER M WITH DOT ABOVE
bSMALL LETTER M WITH DOT ABOVE;bCAPITAL LETTER M WITH DOT BELOW;bSMALL LETTER M WITH DOT BELOW
bCAPITAL LETTER N WITH DOT ABOVE;bSMALL LETTER N WITH DOT ABOVE;bCAPITAL LETTER N WITH DOT BELOW
bSMALL LETTER N WITH DOT BELOW;bCAPITAL LETTER N WITH LINE BELOW;bSMALL LETTER N WITH LINE BELOW
bCAPITAL LETTER N WITH CIRCUMFLEX BELOW;bSMALL LETTER N WITH CIRCUMFLEX BELOW
bCAPITAL LETTER O WITH TILDE AND ACUTE;bSMALL LETTER O WITH TILDE AND ACUTE
bCAPITAL LETTER O WITH TILDE AND DIAERESIS;bSMALL LETTER O WITH TILDE AND DIAERESIS
bCAPITAL LETTER O WITH MACRON AND GRAVE;bSMALL LETTER O WITH MACRON AND GRAVE
bCAPITAL LETTER O WITH MACRON AND ACUTE;bSMALL LETTER O WITH MACRON AND ACUTE
bCAPITAL LETTER P WITH ACUTE;bSMALL LETTER P WITH ACUTE;bCAPITAL LETTER P WITH DOT ABOVE
bSMALL LETTER P WITH DOT ABOVE;bCAPITAL LETTER R WITH DOT ABOVE;bSMALL LETTER R WITH DOT ABOVE
bCAPITAL LETTER R WITH DOT BELOW;bSMALL LETTER R WITH DOT BELOW
bCAPITAL LETTER R WITH DOT BELOW AND MACRON;bSMALL LETTER R WITH DOT BELOW AND MACRON
bCAPITAL LETTER R WITH LINE BELOW;bSMALL LETTER R WITH LINE BELOW;bCAPITAL LETTER S WITH DOT ABOVE
bSMALL LETTER S WITH DOT ABOVE;bCAPITAL LETTER S WITH DOT BELOW;bSMALL LETTER S WITH DOT BELOW
bCAPITAL LETTER S WITH ACUTE AND DOT ABOVE;bSMALL LETTER S WITH ACUTE AND DOT ABOVE
bCAPITAL LETTER S WITH CARON AND DOT ABOVE;bSMALL LETTER S WITH CARON AND DOT ABOVE
bCAPITAL LETTER S WITH DOT BELOW AND DOT ABOVE;bSMALL LETTER S WITH DOT BELOW AND DOT ABOVE
bCAPITAL LETTER T WITH DOT ABOVE;bSMALL LETTER T WITH DOT ABOVE;bCAPITAL LETTER T WITH DOT BELOW
bSMALL LETTER T WITH DOT BELOW;bCAPITAL LETTER T WITH LINE BELOW;bSMALL LETTER T WITH LINE BELOW
bCAPITAL LETTER T WITH CIRCUMFLEX BELOW;bSMALL LETTER T WITH CIRCUMFLEX BELOW
bCAPITAL LETTER U WITH DIAERESIS BELOW;bSMALL LETTER U WITH DIAERESIS BELOW
bCAPITAL LETTER U WITH TILDE BELOW;bSMALL LETTER U WITH TILDE BELOW
bCAPITAL LETTER U WITH CIRCUMFLEX BELOW;bSMALL LETTER U WITH CIRCUMFLEX BELOW
bCAPITAL LETTER U WITH TILDE AND ACUTE;bSMALL LETTER U WITH TILDE AND ACUTE
bCAPITAL LETTER U WITH MACRON AND DIAERESIS;bSMALL LETTER U WITH MACRON AND DIAERESIS
bCAPITAL LETTER V WITH TILDE;bSMALL LETTER V WITH TILDE;bCAPITAL LETTER V WITH DOT BELOW
bSMALL LETTER V WITH DOT BELOW;bCAPITAL LETTER W WITH GRAVE;bSMALL LETTER W WITH GRAVE
bCAPITAL LETTER W WITH ACUTE;bSMALL LETTER W WITH ACUTE;bCAPITAL LETTER W WITH DIAERESIS
bSMALL LETTER W WITH DIAERESIS;bCAPITAL LETTER W WITH DOT ABOVE;bSMALL LETTER W WITH DOT ABOVE
bCAPITAL LETTER W WITH DOT BELOW;bSMALL LETTER W WITH DOT BELOW;bCAPITAL LETTER X WITH DOT ABOVE
bSMALL LETTER X WITH DOT ABOVE;bCAPITAL LETTER X WITH DIAERESIS;bSMALL LETTER X WITH DIAERESIS
bCAPITAL LETTER Y WITH DOT ABOVE;bSMALL LETTER Y WITH DOT ABOVE;bCAPITAL LETTER Z WITH CIRCUMFLEX
bSMALL LETTER Z WITH CIRCUMFLEX;bCAPITAL LETTER Z WITH DOT BELOW;bSMALL LETTER Z WITH DOT BELOW
bCAPITAL LETTER Z WITH LINE BELOW;bSMALL LETTER Z WITH LINE BELOW;dH WITH LINE BELOW
dT WITH DIAERESIS;dW WITH RING ABOVE;dY WITH RING ABOVE;dA WITH RIGHT HALF RING
dLONG S WITH DOT ABOVE;gDIAGONAL STROKE;gHIGH STROKE;bCAPITAL LETTER SHARP S;bSMALL LETTER DELTA
bCAPITAL LETTER A WITH DOT BELOW;bSMALL LETTER A WITH DOT BELOW;bCAPITAL LETTER A WITH HOOK ABOVE
bSMALL LETTER A WITH HOOK ABOVE;bCAPITAL LETTER A WITH CIRCUMFLEX AND ACUTE
bSMALL LETTER A WITH CIRCUMFLEX AND ACUTE;bCAPITAL LETTER A WITH CIRCUMFLEX AND GRAVE
bSMALL LETTER A WITH CIRCUMFLEX AND GRAVE;bCAPITAL LETTER A WITH CIRCUMFLEX AND HOOK ABOVE
bSMALL LETTER A WITH CIRCUMFLEX AND HOOK ABOVE;bCAPITAL LETTER A WITH CIRCUMFLEX AND TILDE
bSMALL LETTER A WITH CIRCUMFLEX AND TILDE;bCAPITAL LETTER A WITH CIRCUMFLEX AND DOT BELOW
bSMALL LETTER A WITH CIRCUMFLEX AND DOT BELOW;bCAPITAL LETTER A WITH BREVE AND ACUTE
bSMALL LETTER A WITH BREVE AND ACUTE;bCAPITAL LETTER A WITH BREVE AND GRAVE
bSMALL LETTER A WITH BREVE AND GRAVE;bCAPITAL LETTER A WITH BREVE AND HOOK ABOVE
bSMALL LETTER A WITH BREVE AND HOOK ABOVE;bCAPITAL LETTER A WITH BREVE AND TILDE
bSMALL LETTER A WITH BREVE AND TILDE;bCAPITAL LETTER A WITH BREVE AND DOT BELOW
bSMALL LETTER A WITH BREVE AND DOT BELOW;bCAPITAL LETTER E WITH DOT BELOW
bSMALL LETTER E WITH DOT BELOW;bCAPITAL LETTER E WITH HOOK ABOVE;bSMALL LETTER E WITH HOOK ABOVE
bCAPITAL LETTER E WITH TILDE;bSMALL LETTER E WITH TILDE
bCAPITAL LETTER E WITH CIRCUMFLEX AND ACUTE;bSMALL LETTER E WITH CIRCUMFLEX AND ACUTE
bCAPITAL LETTER E WITH CIRCUMFLEX AND GRAVE;bSMALL LETTER E WITH CIRCUMFLEX AND GRAVE
bCAPITAL LETTER E WITH CIRCUMFLEX AND HOOK ABOVE;bSMALL LETTER E WITH CIRCUMFLEX AND HOOK ABOVE
bCAPITAL LETTER E WITH CIRCUMFLEX AND TILDE;bSMALL LETTER E WITH CIRCUMFLEX AND TILDE
bCAPITAL LETTER E WITH CIRCUMFLEX AND DOT BELOW;bSMALL LETTER E WITH CIRCUMFLEX AND DOT BELOW
bCAPITAL LETTER I WITH HOOK ABOVE;bSMALL LETTER I WITH HOOK ABOVE;bCAPITAL LETTER I WITH DOT BELOW
bSMALL LETTER I WITH DOT BELOW;bCAPITAL LETTER O WITH DOT BELOW;bSMALL LETTER O WITH DOT BELOW
bCAPITAL LETTER O WITH HOOK ABOVE;bSMALL LETTER O WITH HOOK ABOVE
bCAPITAL LETTER O WITH CIRCUMFLEX AND ACUTE;bSMALL LETTER O WITH CIRCUMFLEX AND ACUTE
bCAPITAL LETTER O WITH CIRCUMFLEX AND GRAVE;bSMALL LETTER O WITH CIRCUMFLEX AND GRAVE
bCAPITAL LETTER O WITH CIRCUMFLEX AND HOOK ABOVE;bSMALL LETTER O WITH CIRCUMFLEX AND HOOK ABOVE
bCAPITAL LETTER O WITH CIRCUMFLEX AND TILDE;bSMALL LETTER O WITH CIRCUMFLEX AND TILDE
bCAPITAL LETTER O WITH CIRCUMFLEX AND DOT BELOW;bSMALL LETTER O WITH CIRCUMFLEX AND DOT BELOW
bCAPITAL LETTER O WITH HORN AND ACUTE;bSMALL LETTER O WITH HORN AND ACUTE
bCAPITAL LETTER O WITH HORN AND GRAVE;bSMALL LETTER O WITH HORN AND GRAVE
bCAPITAL LETTER O WITH HORN AND HOOK ABOVE;bSMALL LETTER O WITH HORN AND HOOK ABOVE
bCAPITAL LETTER O WITH HORN AND TILDE;bSMALL LETTER O WITH HORN AND TILDE
bCAPITAL LETTER O WITH HORN AND DOT BELOW;bSMALL LETTER O WITH HORN AND DOT BELOW
bCAPITAL LETTER U WITH DOT BELOW;bSMALL LETTER U WITH DOT BELOW;bCAPITAL LETTER U WITH HOOK ABOVE
bSMALL LETTER U WITH HOOK ABOVE;bCAPITAL LETTER U WITH HORN AND ACUTE
bSMALL LETTER U WITH HORN AND ACUTE;bCAPITAL LETTER U WITH HORN AND GRAVE
bSMALL LETTER U WITH HORN AND GRAVE;bCAPITAL LETTER U WITH HORN AND HOOK ABOVE
bSMALL LETTER U WITH HORN AND HOOK ABOVE;bCAPITAL LETTER U WITH HORN AND TILDE
bSMALL LETTER U WITH HORN AND TILDE;bCAPITAL LETTER U WITH HORN AND DOT BELOW
bSMALL LETTER U WITH HORN AND DOT BELOW;bCAPITAL LETTER Y WITH GRAVE;bSMALL LETTER Y WITH GRAVE
bCAPITAL LETTER Y WITH DOT BELOW;bSMALL LETTER Y WITH DOT BELOW;bCAPITAL LETTER Y WITH HOOK ABOVE
bSMALL LETTER Y WITH HOOK ABOVE;bCAPITAL LETTER Y WITH TILDE;bSMALL LETTER Y WITH TILDE
bCAPITAL LETTER MIDDLE-WELSH LL;bSMALL LETTER MIDDLE-WELSH LL;bCAPITAL LETTER MIDDLE-WELSH V
bSMALL LETTER MIDDLE-WELSH V;bCAPITAL LETTER Y WITH LOOP;bSMALL LETTER Y WITH LOOP
aGREEK SMALL LETTER ALPHA WITH PSILI;fDASIA;fPSILI AND VARIA;fDASIA AND VARIA;fPSILI AND OXIA
fDASIA AND OXIA;fPSILI AND PERISPOMENI;fDASIA AND PERISPOMENI;bCAPITAL LETTER ALPHA WITH PSILI
fDASIA;fPSILI AND VARIA;fDASIA AND VARIA;fPSILI AND OXIA;fDASIA AND OXIA;fPSILI AND PERISPOMENI
fDASIA AND PERISPOMENI;bSMALL LETTER EPSILON WITH PSILI;fDASIA;fPSILI AND VARIA;fDASIA AND VARIA
fPSILI AND OXIA;fDASIA AND OXIA;@1F18;bCAPITAL LETTER EPSILON WITH PSILI;fDASIA;fPSILI AND VARIA
fDASIA AND VARIA;fPSILI AND OXIA;fDASIA AND OXIA;@1F20;bSMALL LETTER ETA WITH PSILI;fDASIA
fPSILI AND VARIA;fDASIA AND VARIA;fPSILI AND OXIA;fDASIA AND OXIA;fPSILI AND PERISPOMENI
fDASIA AND PERISPOMENI;bCAPITAL LETTER ETA WITH PSILI;fDASIA;fPSILI AND VARIA;fDASIA AND VARIA
fPSILI AND OXIA;fDASIA AND OXIA;fPSILI AND PERISPOMENI;fDASIA AND PERISPOMENI
bSMALL LETTER IOTA WITH PSILI;fDASIA;fPSILI AND VARIA;fDASIA AND VARIA;fPSILI AND OXIA
fDASIA AND OXIA;fPSILI AND PERISPOMENI;fDASIA AND PERISPOMENI;bCAPITAL LETTER IOTA WITH PSILI
fDASIA;fPSILI AND VARIA;fDASIA AND VARIA;fPSILI AND OXIA;fDASIA AND OXIA;fPSILI AND PERISPOMENI
fDASIA AND PERISPOMENI;bSMALL LETTER OMICRON WITH PSILI;fDASIA;fPSILI AND VARIA;fDASIA AND VARIA
fPSILI AND OXIA;fDASIA AND OXIA;@1F48;bCAPITAL LETTER OMICRON WITH PSILI;fDASIA;fPSILI AND VARIA
fDASIA AND VARIA;fPSILI AND OXIA;fDASIA AND OXIA;@1F50;bSMALL LETTER UPSILON WITH PSILI;fDASIA
fPSILI AND VARIA;fDASIA AND VARIA;fPSILI AND OXIA;fDASIA AND OXIA;fPSILI AND PERISPOMENI
fDASIA AND PERISPOMENI;@1F59;bCAPITAL LETTER UPSILON WITH DASIA;@1F5B;gAND VARIA;@1F5D;hOXIA;@1F5F
hPERISPOMENI;bSMALL LETTER OMEGA WITH PSILI;fDASIA;fPSILI AND VARIA;fDASIA AND VARIA
fPSILI AND OXIA;fDASIA AND OXIA;fPSILI AND PERISPOMENI;fDASIA AND PERISPOMENI
bCAPITAL LETTER OMEGA WITH PSILI;fDASIA;fPSILI AND VARIA;fDASIA AND VARIA;fPSILI AND OXIA
fDASIA AND OXIA;fPSILI AND PERISPOMENI;fDASIA AND PERISPOMENI;bSMALL LETTER ALPHA WITH VARIA;fOXIA
dEPSILON WITH VARIA;fOXIA;dETA WITH VARIA;fOXIA;dIOTA WITH VARIA;fOXIA;dOMICRON WITH VARIA;fOXIA
dUPSILON WITH VARIA;fOXIA;dOMEGA WITH VARIA;fOXIA;@1F80;dALPHA WITH PSILI AND YPOGEGRAMMENI
fDASIA AND YPOGEGRAMMENI;fPSILI AND VARIA AND YPOGEGRAMMENI;fDASIA AND VARIA AND YPOGEGRAMMENI
fPSILI AND OXIA AND YPOGEGRAMMENI;fDASIA AND OXIA AND YPOGEGRAMMENI
fPSILI AND PERISPOMENI AND YPOGEGRAMMENI;fDASIA AND PERISPOMENI AND YPOGEGRAMMENI
bCAPITAL LETTER ALPHA WITH PSILI AND PROSGEGRAMMENI;fDASIA AND PROSGEGRAMMENI
fPSILI AND VARIA AND PROSGEGRAMMENI;fDASIA AND VARIA AND PROSGEGRAMMENI
fPSILI AND OXIA AND PROSGEGRAMMENI;fDASIA AND OXIA AND PROSGEGRAMMENI
fPSILI AND PERISPOMENI AND PROSGEGRAMMENI;fDASIA AND PERISPOMENI AND PROSGEGRAMMENI
bSMALL LETTER ETA WITH PSILI AND YPOGEGRAMMENI;fDASIA AND YPOGEGRAMMENI
fPSILI AND VARIA AND YPOGEGRAMMENI;fDASIA AND VARIA AND YPOGEGRAMMENI
fPSILI AND OXIA AND YPOGEGRAMMENI;fDASIA AND OXIA AND YPOGEGRAMMENI
fPSILI AND PERISPOMENI AND YPOGEGRAMMENI;fDASIA AND PERISPOMENI AND YPOGEGRAMMENI
bCAPITAL LETTER ETA WITH PSILI AND PROSGEGRAMMENI;fDASIA AND PROSGEGRAMMENI
fPSILI AND VARIA AND PROSGEGRAMMENI;fDASIA AND VARIA AND PROSGEGRAMMENI
fPSILI AND OXIA AND PROSGEGRAMMENI;fDASIA AND OXIA AND PROSGEGRAMMENI
fPSILI AND PERISPOMENI AND PROSGEGRAMMENI;fDASIA AND PERISPOMENI AND PROSGEGRAMMENI
bSMALL LETTER OMEGA WITH PSILI AND YPOGEGRAMMENI;fDASIA AND YPOGEGRAMMENI
fPSILI AND VARIA AND YPOGEGRAMMENI;fDASIA AND VARIA AND YPOGEGRAMMENI
fPSILI AND OXIA AND YPOGEGRAMMENI;fDASIA AND OXIA AND YPOGEGRAMMENI
fPSILI AND PERISPOMENI AND YPOGEGRAMMENI;fDASIA AND PERISPOMENI AND YPOGEGRAMMENI
bCAPITAL LETTER OMEGA WITH PSILI AND PROSGEGRAMMENI;fDASIA AND PROSGEGRAMMENI
fPSILI AND VARIA AND PROSGEGRAMMENI;fDASIA AND VARIA AND PROSGEGRAMMENI
fPSILI AND OXIA AND PROSGEGRAMMENI;fDASIA AND OXIA AND PROSGEGRAMMENI
fPSILI AND PERISPOMENI AND PROSGEGRAMMENI;fDASIA AND PERISPOMENI AND PROSGEGRAMMENI
bSMALL LETTER ALPHA WITH VRACHY;fMACRON;fVARIA AND YPOGEGRAMMENI;fYPOGEGRAMMENI
fOXIA AND YPOGEGRAMMENI;@1FB6;fPERISPOMENI;gAND YPOGEGRAMMENI;bCAPITAL LETTER ALPHA WITH VRACHY
fMACRON;fVARIA;fOXIA;fPROSGEGRAMMENI;bKORONIS;bPROSGEGRAMMENI;bPSILI;bPERISPOMENI
bDIALYTIKA AND PERISPOMENI;bSMALL LETTER ETA WITH VARIA AND YPOGEGRAMMENI;fYPOGEGRAMMENI
fOXIA AND YPOGEGRAMMENI;@1FC6;fPERISPOMENI;gAND YPOGEGRAMMENI;bCAPITAL LETTER EPSILON WITH VARIA
fOXIA;dETA WITH VARIA;fOXIA;fPROSGEGRAMMENI;bPSILI AND VARIA;dOXIA;dPERISPOMENI
bSMALL LETTER IOTA WITH VRACHY;fMACRON;fDIALYTIKA AND VARIA;hOXIA;@1FD6;fPERISPOMENI
fDIALYTIKA AND PERISPOMENI;bCAPITAL LETTER IOTA WITH VRACHY;fMACRON;fVARIA;fOXIA;@1FDD
bDASIA AND VARIA;dOXIA;dPERISPOMENI;bSMALL LETTER UPSILON WITH VRACHY;fMACRON;fDIALYTIKA AND VARIA
hOXIA;dRHO WITH PSILI;fDASIA;dUPSILON WITH PERISPOMENI;fDIALYTIKA AND PERISPOMENI
bCAPITAL LETTER UPSILON WITH VRACHY;fMACRON;fVARIA;fOXIA;dRHO WITH DASIA;bDIALYTIKA AND VARIA
dOXIA;bVARIA;@1FF2;bSMALL LETTER OMEGA WITH VARIA AND YPOGEGRAMMENI;fYPOGEGRAMMENI
fOXIA AND YPOGEGRAMMENI;@1FF6;fPERISPOMENI;gAND YPOGEGRAMMENI;bCAPITAL LETTER OMICRON WITH VARIA
fOXIA;dOMEGA WITH VARIA;fOXIA;fPROSGEGRAMMENI;bOXIA;bDASIA;@2000;aEN QUAD;aEM QUAD;aEN SPACE
aEM SPACE;aTHREE-PER-EM SPACE;aFOUR-PER-EM SPACE;aSIX-PER-EM SPACE;aFIGURE SPACE
aPUNCTUATION SPACE;aTHIN SPACE;aHAIR SPACE;aZERO WIDTH SPACE;cNON-JOINER;cJOINER
aLEFT-TO-RIGHT MARK;aRIGHT-TO-LEFT MARK;aHYPHEN;aNON-BREAKING HYPHEN;aFIGURE DASH;aEN DASH
aEM DASH;aHORIZONTAL BAR;aDOUBLE VERTICAL LINE;bLOW LINE;aLEFT SINGLE QUOTATION MARK
aRIGHT SINGLE QUOTATION MARK;aSINGLE LOW-9 QUOTATION MARK;bHIGH-REVERSED-9 QUOTATION MARK
aLEFT DOUBLE QUOTATION MARK;aRIGHT DOUBLE QUOTATION MARK;aDOUBLE LOW-9 QUOTATION MARK
bHIGH-REVERSED-9 QUOTATION MARK;aDAGGER;aDOUBLE DAGGER;aBULLET;aTRIANGULAR BULLET;aONE DOT LEADER
aTWO DOT LEADER;aHORIZONTAL ELLIPSIS;aHYPHENATION POINT;aLINE SEPARATOR;aPARAGRAPH SEPARATOR
aLEFT-TO-RIGHT EMBEDDING;aRIGHT-TO-LEFT EMBEDDING;aPOP DIRECTIONAL FORMATTING
aLEFT-TO-RIGHT OVERRIDE;aRIGHT-TO-LEFT OVERRIDE;aNARROW NO-BREAK SPACE;aPER MILLE SIGN
bTEN THOUSAND SIGN;aPRIME;aDOUBLE PRIME;aTRIPLE PRIME;aREVERSED PRIME;bDOUBLE PRIME;bTRIPLE PRIME
aCARET;aSINGLE LEFT-POINTING ANGLE QUOTATION MARK;bRIGHT-POINTING ANGLE QUOTATION MARK
aREFERENCE MARK;aDOUBLE EXCLAMATION MARK;aINTERROBANG;aOVERLINE;aUNDERTIE;aCHARACTER TIE
aCARET INSERTION POINT;aASTERISM;aHYPHEN BULLET;aFRACTION SLASH;aLEFT SQUARE BRACKET WITH QUILL
aRIGHT SQUARE BRACKET WITH QUILL;aDOUBLE QUESTION MARK;aQUESTION EXCLAMATION MARK
aEXCLAMATION QUESTION MARK;aTIRONIAN SIGN ET;aREVERSED PILCROW SIGN;aBLACK LEFTWARDS BULLET
bRIGHTWARDS BULLET;aLOW ASTERISK;aREVERSED SEMICOLON;aCLOSE UP;aTWO ASTERISKS ALIGNED VERTICALLY
aCOMMERCIAL MINUS SIGN;aSWUNG DASH;aINVERTED UNDERTIE;aFLOWER PUNCTUATION MARK
aTHREE DOT PUNCTUATION;aQUADRUPLE PRIME;aFOUR DOT PUNCTUATION;aFIVE DOT PUNCTUATION
aTWO DOT PUNCTUATION;aFOUR DOT MARK;aDOTTED CROSS;aTRICOLON;aVERTICAL FOUR DOTS
aMEDIUM MATHEMATICAL SPACE;aWORD JOINER;aFUNCTION APPLICATION;aINVISIBLE TIMES;bSEPARATOR;bPLUS
@2066;aLEFT-TO-RIGHT ISOLATE;aRIGHT-TO-LEFT ISOLATE;aFIRST STRONG ISOLATE;aPOP DIRECTIONAL ISOLATE
aINHIBIT SYMMETRIC SWAPPING;aACTIVATE SYMMETRIC SWAPPING;aINHIBIT ARABIC FORM SHAPING
aACTIVATE ARABIC FORM SHAPING;aNATIONAL DIGIT SHAPES;aNOMINAL DIGIT SHAPES;aSUPERSCRIPT ZERO
bLATIN SMALL LETTER I;@2074;bFOUR;bFIVE;bSIX;bSEVEN;bEIGHT;bNINE;bPLUS SIGN;bMINUS;bEQUALS SIGN
bLEFT PARENTHESIS;bRIGHT PARENTHESIS;bLATIN SMALL LETTER N;aSUBSCRIPT ZERO;bONE;bTWO;bTHREE;bFOUR
bFIVE;bSIX;bSEVEN;bEIGHT;bNINE;bPLUS SIGN;bMINUS;bEQUALS SIGN;bLEFT PARENTHESIS;bRIGHT PARENTHESIS
@2090;aLATIN SUBSCRIPT SMALL LETTER A;eE;eO;eX;eSCHWA;eH;eK;eL;eM;eN;eP;eS;eT;@20A0
aEURO-CURRENCY SIGN;aCOLON SIGN;aCRUZEIRO SIGN;aFRENCH FRANC SIGN;aLIRA SIGN;aMILL SIGN
aNAIRA SIGN;aPESETA SIGN;aRUPEE SIGN;aWON SIGN;aNEW SHEQEL SIGN;aDONG SIGN;aEURO SIGN;aKIP SIGN
aTUGRIK SIGN;aDRACHMA SIGN;aGERMAN PENNY SIGN;aPESO SIGN;aGUARANI SIGN;aAUSTRAL SIGN;aHRYVNIA SIGN
aCEDI SIGN;aLIVRE TOURNOIS SIGN;aSPESMILO SIGN;aTENGE SIGN;aINDIAN RUPEE SIGN;aTURKISH LIRA SIGN
aNORDIC MARK SIGN;aMANAT SIGN;aRUBLE SIGN;aLARI SIGN;aBITCOIN SIGN;aSOM SIGN;@20D0
aCOMBINING LEFT HARPOON ABOVE;bRIGHT HARPOON ABOVE;bLONG VERTICAL LINE OVERLAY
bSHORT VERTICAL LINE OVERLAY;bANTICLOCKWISE ARROW ABOVE;bCLOCKWISE ARROW ABOVE;bLEFT ARROW ABOVE
bRIGHT ARROW ABOVE;bRING OVERLAY;bCLOCKWISE RING OVERLAY;bANTICLOCKWISE RING OVERLAY
bTHREE DOTS ABOVE;bFOUR DOTS ABOVE;bENCLOSING CIRCLE;cSQUARE;cDIAMOND;cCIRCLE BACKSLASH
bLEFT RIGHT ARROW ABOVE;bENCLOSING SCREEN;cKEYCAP;cUPWARD POINTING TRIANGLE
bREVERSE SOLIDUS OVERLAY;bDOUBLE VERTICAL STROKE OVERLAY;bANNUITY SYMBOL;bTRIPLE UNDERDOT
bWIDE BRIDGE ABOVE;bLEFTWARDS ARROW OVERLAY;bLONG DOUBLE SOLIDUS OVERLAY
bRIGHTWARDS HARPOON WITH BARB DOWNWARDS;bLEFTWARDS HARPOON WITH BARB DOWNWARDS;bLEFT ARROW BELOW
bRIGHT ARROW BELOW;bASTERISK ABOVE;@2100;aACCOUNT OF;aADDRESSED TO THE SUBJECT
aDOUBLE-STRUCK CAPITAL C;aDEGREE CELSIUS;aCENTRE LINE SYMBOL;aCARE OF;aCADA UNA;aEULER CONSTANT
aSCRUPLE;aDEGREE FAHRENHEIT;aSCRIPT SMALL G;bCAPITAL H;aBLACK-LETTER CAPITAL H
aDOUBLE-STRUCK CAPITAL H;aPLANCK CONSTANT;cOVER TWO PI;aSCRIPT CAPITAL I;aBLACK-LETTER CAPITAL I
aSCRIPT CAPITAL L;bSMALL L;aL B BAR SYMBOL;aDOUBLE-STRUCK CAPITAL N;aNUMERO SIGN
aSOUND RECORDING COPYRIGHT;aSCRIPT CAPITAL P;aDOUBLE-STRUCK CAPITAL P;cQ;aSCRIPT CAPITAL R
aBLACK-LETTER CAPITAL R;aDOUBLE-STRUCK CAPITAL R;aPRESCRIPTION TAKE;aRESPONSE;aSERVICE MARK
aTELEPHONE SIGN;aTRADE MARK SIGN;aVERSICLE;aDOUBLE-STRUCK CAPITAL Z;aOUNCE SIGN;aOHM SIGN
aINVERTED OHM SIGN;aBLACK-LETTER CAPITAL Z;aTURNED GREEK SMALL LETTER IOTA;aKELVIN SIGN
aANGSTROM SIGN;aSCRIPT CAPITAL B;aBLACK-LETTER CAPITAL C;aESTIMATED SYMBOL;aSCRIPT SMALL E
bCAPITAL E;cF;aTURNED CAPITAL F;aSCRIPT CAPITAL M;bSMALL O;aALEF SYMBOL;aBET SYMBOL;aGIMEL SYMBOL
aDALET SYMBOL;aINFORMATION SOURCE;aROTATED CAPITAL Q;aFACSIMILE SIGN;aDOUBLE-STRUCK SMALL PI
cGAMMA;bCAPITAL GAMMA;cPI;bN-ARY SUMMATION;aTURNED SANS-SERIF CAPITAL G;dL
aREVERSED SANS-SERIF CAPITAL L;aTURNED SANS-SERIF CAPITAL Y;aDOUBLE-STRUCK ITALIC CAPITAL D
cSMALL D;dE;dI;dJ;aPROPERTY LINE;aTURNED AMPERSAND;aPER SIGN;aAKTIESELSKAB;aTURNED SMALL F
aSYMBOL FOR SAMARITAN SOURCE;aVULGAR FRACTION ONE SEVENTH;dNINTH;dTENTH;dTHIRD;cTWO THIRDS
cONE FIFTH;cTWO FIFTHS;cTHREE FIFTHS;cFOUR FIFTHS;cONE SIXTH;cFIVE SIXTHS;cONE EIGHTH
cTHREE EIGHTHS;cFIVE EIGHTHS;cSEVEN EIGHTHS;aFRACTION NUMERATOR ONE;aROMAN NUMERAL ONE;cTWO;cTHREE
cFOUR;cFIVE;cSIX;cSEVEN;cEIGHT;cNINE;cTEN;cELEVEN;cTWELVE;cFIFTY;cONE HUNDRED;cFIVE HUNDRED
cONE THOUSAND;aSMALL ROMAN NUMERAL ONE;dTWO;dTHREE;dFOUR;dFIVE;dSIX;dSEVEN;dEIGHT;dNINE;dTEN
dELEVEN;dTWELVE;dFIFTY;dONE HUNDRED;dFIVE HUNDRED;dONE THOUSAND;aROMAN NUMERAL ONE THOUSAND C D
cFIVE THOUSAND;cTEN THOUSAND;cREVERSED ONE HUNDRED;aLATIN SMALL LETTER REVERSED C
aROMAN NUMERAL SIX LATE FORM;cFIFTY EARLY FORM;dTHOUSAND;cONE HUNDRED THOUSAND
aVULGAR FRACTION ZERO THIRDS;aTURNED DIGIT TWO;cTHREE;@2190;aLEFTWARDS ARROW;aUPWARDS ARROW
aRIGHTWARDS ARROW;aDOWNWARDS ARROW;aLEFT RIGHT ARROW;aUP DOWN ARROW;aNORTH WEST ARROW;bEAST ARROW
aSOUTH EAST ARROW;bWEST ARROW;aLEFTWARDS ARROW WITH STROKE;aRIGHTWARDS ARROW WITH STROKE
aLEFTWARDS WAVE ARROW;aRIGHTWARDS WAVE ARROW;aLEFTWARDS TWO HEADED ARROW;aUPWARDS TWO HEADED ARROW
aRIGHTWARDS TWO HEADED ARROW;aDOWNWARDS TWO HEADED ARROW;aLEFTWARDS ARROW WITH TAIL
aRIGHTWARDS ARROW WITH TAIL;aLEFTWARDS ARROW FROM BAR;aUPWARDS ARROW FROM BAR
aRIGHTWARDS ARROW FROM BAR;aDOWNWARDS ARROW FROM BAR;aUP DOWN ARROW WITH BASE
aLEFTWARDS ARROW WITH HOOK;aRIGHTWARDS ARROW WITH HOOK;aLEFTWARDS ARROW WITH LOOP
aRIGHTWARDS ARROW WITH LOOP;aLEFT RIGHT WAVE ARROW;cARROW WITH STROKE;aDOWNWARDS ZIGZAG ARROW
aUPWARDS ARROW WITH TIP LEFTWARDS;eRIGHTWARDS;aDOWNWARDS ARROW WITH TIP LEFTWARDS;eRIGHTWARDS
aRIGHTWARDS ARROW WITH CORNER DOWNWARDS;aDOWNWARDS ARROW WITH CORNER LEFTWARDS
aANTICLOCKWISE TOP SEMICIRCLE ARROW;aCLOCKWISE TOP SEMICIRCLE ARROW;aNORTH WEST ARROW TO LONG BAR
aLEFTWARDS ARROW TO BAR OVER RIGHTWARDS ARROW TO BAR;aANTICLOCKWISE OPEN CIRCLE ARROW
aCLOCKWISE OPEN CIRCLE ARROW;aLEFTWARDS HARPOON WITH BARB UPWARDS;eDOWNWARDS
aUPWARDS HARPOON WITH BARB RIGHTWARDS;eLEFTWARDS;aRIGHTWARDS HARPOON WITH BARB UPWARDS;eDOWNWARDS
aDOWNWARDS HARPOON WITH BARB RIGHTWARDS;eLEFTWARDS;aRIGHTWARDS ARROW OVER LEFTWARDS ARROW
aUPWARDS ARROW LEFTWARDS OF DOWNWARDS ARROW;aLEFTWARDS ARROW OVER RIGHTWARDS ARROW;bPAIRED ARROWS
aUPWARDS PAIRED ARROWS;aRIGHTWARDS PAIRED ARROWS;aDOWNWARDS PAIRED ARROWS
aLEFTWARDS HARPOON OVER RIGHTWARDS HARPOON;aRIGHTWARDS HARPOON OVER LEFTWARDS HARPOON
aLEFTWARDS DOUBLE ARROW WITH STROKE;aLEFT RIGHT DOUBLE ARROW WITH STROKE
aRIGHTWARDS DOUBLE ARROW WITH STROKE;aLEFTWARDS DOUBLE ARROW;aUPWARDS DOUBLE ARROW
aRIGHTWARDS DOUBLE ARROW;aDOWNWARDS DOUBLE ARROW;aLEFT RIGHT DOUBLE ARROW;aUP DOWN DOUBLE ARROW
aNORTH WEST DOUBLE ARROW;bEAST DOUBLE ARROW;aSOUTH EAST DOUBLE ARROW;bWEST DOUBLE ARROW
aLEFTWARDS TRIPLE ARROW;aRIGHTWARDS TRIPLE ARROW;aLEFTWARDS SQUIGGLE ARROW
aRIGHTWARDS SQUIGGLE ARROW;aUPWARDS ARROW WITH DOUBLE STROKE;aDOWNWARDS ARROW WITH DOUBLE STROKE
aLEFTWARDS DASHED ARROW;aUPWARDS DASHED ARROW;aRIGHTWARDS DASHED ARROW;aDOWNWARDS DASHED ARROW
aLEFTWARDS ARROW TO BAR;aRIGHTWARDS ARROW TO BAR;aLEFTWARDS WHITE ARROW;aUPWARDS WHITE ARROW
aRIGHTWARDS WHITE ARROW;aDOWNWARDS WHITE ARROW;aUPWARDS WHITE ARROW FROM BAR;dON PEDESTAL
fWITH HORIZONTAL BAR;gVERTICAL BAR;cDOUBLE ARROW;eON PEDESTAL;aRIGHTWARDS WHITE ARROW FROM WALL
aNORTH WEST ARROW TO CORNER;aSOUTH EAST ARROW TO CORNER;aUP DOWN WHITE ARROW
aRIGHT ARROW WITH SMALL CIRCLE;aDOWNWARDS ARROW LEFTWARDS OF UPWARDS ARROW
aTHREE RIGHTWARDS ARROWS;aLEFTWARDS ARROW WITH VERTICAL STROKE
aRIGHTWARDS ARROW WITH VERTICAL STROKE;aLEFT RIGHT ARROW WITH VERTICAL STROKE
aLEFTWARDS ARROW WITH DOUBLE VERTICAL STROKE;aRIGHTWARDS ARROW WITH DOUBLE VERTICAL STROKE
aLEFT RIGHT ARROW WITH DOUBLE VERTICAL STROKE;aLEFTWARDS OPEN-HEADED ARROW
aRIGHTWARDS OPEN-HEADED ARROW;aLEFT RIGHT OPEN-HEADED ARROW;aFOR ALL;aCOMPLEMENT
aPARTIAL DIFFERENTIAL;aTHERE EXISTS;bDOES NOT EXIST;aEMPTY SET;aINCREMENT;aNABLA;aELEMENT OF
aNOT AN ELEMENT OF;aSMALL ELEMENT OF;aCONTAINS AS MEMBER;aDOES NOT CONTAIN AS MEMBER
aSMALL CONTAINS AS MEMBER;aEND OF PROOF;aN-ARY PRODUCT;bCOPRODUCT;bSUMMATION;aMINUS SIGN
aMINUS-OR-PLUS SIGN;aDOT PLUS;aDIVISION SLASH;aSET MINUS;aASTERISK OPERATOR;aRING OPERATOR
aBULLET OPERATOR;aSQUARE ROOT;aCUBE ROOT;aFOURTH ROOT;aPROPORTIONAL TO;aINFINITY;aRIGHT ANGLE
aANGLE;aMEASURED ANGLE;aSPHERICAL ANGLE;aDIVIDES;aDOES NOT DIVIDE;aPARALLEL TO;aNOT PARALLEL TO
aLOGICAL AND;bOR;aINTERSECTION;aUNION;aINTEGRAL;aDOUBLE INTEGRAL;aTRIPLE INTEGRAL
aCONTOUR INTEGRAL;aSURFACE INTEGRAL;aVOLUME INTEGRAL;aCLOCKWISE INTEGRAL;bCONTOUR INTEGRAL
aANTICLOCKWISE CONTOUR INTEGRAL;aTHEREFORE;aBECAUSE;aRATIO;aPROPORTION;aDOT MINUS;aEXCESS
aGEOMETRIC PROPORTION;aHOMOTHETIC;aTILDE OPERATOR;aREVERSED TILDE;aINVERTED LAZY S;aSINE WAVE
aWREATH PRODUCT;aNOT TILDE;aMINUS TILDE;aASYMPTOTICALLY EQUAL TO;aNOT ASYMPTOTICALLY EQUAL TO
aAPPROXIMATELY EQUAL TO;bBUT NOT ACTUALLY EQUAL TO;aNEITHER APPROXIMATELY NOR ACTUALLY EQUAL TO
aALMOST EQUAL TO;aNOT ALMOST EQUAL TO;aALMOST EQUAL OR EQUAL TO;aTRIPLE TILDE;aALL EQUAL TO
aEQUIVALENT TO;aGEOMETRICALLY EQUIVALENT TO;aDIFFERENCE BETWEEN;aAPPROACHES THE LIMIT
aGEOMETRICALLY EQUAL TO;aAPPROXIMATELY EQUAL TO OR THE IMAGE OF
aIMAGE OF OR APPROXIMATELY EQUAL TO;aCOLON EQUALS;aEQUALS COLON;aRING IN EQUAL TO;bEQUAL TO
aCORRESPONDS TO;aESTIMATES;aEQUIANGULAR TO;aSTAR EQUALS;aDELTA EQUAL TO;aEQUAL TO BY DEFINITION
aMEASURED BY;aQUESTIONED EQUAL TO;aNOT EQUAL TO;aIDENTICAL TO;aNOT IDENTICAL TO
aSTRICTLY EQUIVALENT TO;aLESS-THAN OR EQUAL TO;aGREATER-THAN OR EQUAL TO;aLESS-THAN OVER EQUAL TO
aGREATER-THAN OVER EQUAL TO;aLESS-THAN BUT NOT EQUAL TO;aGREATER-THAN BUT NOT EQUAL TO
aMUCH LESS-THAN;bGREATER-THAN;aBETWEEN;aNOT EQUIVALENT TO;bLESS-THAN;bGREATER-THAN
aNEITHER LESS-THAN NOR EQUAL TO;bGREATER-THAN NOR EQUAL TO;aLESS-THAN OR EQUIVALENT TO
aGREATER-THAN OR EQUIVALENT TO;aNEITHER LESS-THAN NOR EQUIVALENT TO
bGREATER-THAN NOR EQUIVALENT TO;aLESS-THAN OR GREATER-THAN;aGREATER-THAN OR LESS-THAN
aNEITHER LESS-THAN NOR GREATER-THAN;bGREATER-THAN NOR LESS-THAN;aPRECEDES;aSUCCEEDS
aPRECEDES OR EQUAL TO;aSUCCEEDS OR EQUAL TO;aPRECEDES OR EQUIVALENT TO;aSUCCEEDS OR EQUIVALENT TO
aDOES NOT PRECEDE;cSUCCEED;aSUBSET OF;aSUPERSET OF;aNOT A SUBSET OF;cSUPERSET OF
aSUBSET OF OR EQUAL TO;aSUPERSET OF OR EQUAL TO;aNEITHER A SUBSET OF NOR EQUAL TO
cSUPERSET OF NOR EQUAL TO;aSUBSET OF WITH NOT EQUAL TO;aSUPERSET OF WITH NOT EQUAL TO;aMULTISET
bMULTIPLICATION;bUNION;aSQUARE IMAGE OF;bORIGINAL OF;bIMAGE OF OR EQUAL TO
bORIGINAL OF OR EQUAL TO;bCAP;bCUP;aCIRCLED PLUS;bMINUS;bTIMES;bDIVISION SLASH;bDOT OPERATOR
bRING OPERATOR;bASTERISK OPERATOR;bEQUALS;bDASH;aSQUARED PLUS;bMINUS;bTIMES;bDOT OPERATOR
aRIGHT TACK;aLEFT TACK;aDOWN TACK;aUP TACK;aASSERTION;aMODELS;aTRUE;aFORCES
aTRIPLE VERTICAL BAR RIGHT TURNSTILE;aDOUBLE VERTICAL BAR DOUBLE RIGHT TURNSTILE;aDOES NOT PROVE
aNOT TRUE;aDOES NOT FORCE;aNEGATED DOUBLE VERTICAL BAR DOUBLE RIGHT TURNSTILE
aPRECEDES UNDER RELATION;aSUCCEEDS UNDER RELATION;aNORMAL SUBGROUP OF;aCONTAINS AS NORMAL SUBGROUP
aNORMAL SUBGROUP OF OR EQUAL TO;aCONTAINS AS NORMAL SUBGROUP OR EQUAL TO;aORIGINAL OF;aIMAGE OF
aMULTIMAP;aHERMITIAN CONJUGATE MATRIX;aINTERCALATE;aXOR;aNAND;aNOR;aRIGHT ANGLE WITH ARC;bTRIANGLE
aN-ARY LOGICAL AND;cOR;bINTERSECTION;bUNION;aDIAMOND OPERATOR;aDOT OPERATOR;aSTAR OPERATOR
aDIVISION TIMES;aBOWTIE;aLEFT NORMAL FACTOR SEMIDIRECT PRODUCT
aRIGHT NORMAL FACTOR SEMIDIRECT PRODUCT;aLEFT SEMIDIRECT PRODUCT;aRIGHT SEMIDIRECT PRODUCT
aREVERSED TILDE EQUALS;aCURLY LOGICAL OR;cAND;aDOUBLE SUBSET;bSUPERSET;bINTERSECTION;bUNION
aPITCHFORK;aEQUAL AND PARALLEL TO;aLESS-THAN WITH DOT;aGREATER-THAN WITH DOT;aVERY MUCH LESS-THAN
cGREATER-THAN;aLESS-THAN EQUAL TO OR GREATER-THAN;aGREATER-THAN EQUAL TO OR LESS-THAN
aEQUAL TO OR LESS-THAN;dGREATER-THAN;dPRECEDES;dSUCCEEDS;aDOES NOT PRECEDE OR EQUAL
cSUCCEED OR EQUAL;aNOT SQUARE IMAGE OF OR EQUAL TO;cORIGINAL OF OR EQUAL TO
aSQUARE IMAGE OF OR NOT EQUAL TO;bORIGINAL OF OR NOT EQUAL TO;aLESS-THAN BUT NOT EQUIVALENT TO
aGREATER-THAN BUT NOT EQUIVALENT TO;aPRECEDES BUT NOT EQUIVALENT TO
aSUCCEEDS BUT NOT EQUIVALENT TO;aNOT NORMAL SUBGROUP OF;aDOES NOT CONTAIN AS NORMAL SUBGROUP
aNOT NORMAL SUBGROUP OF OR EQUAL TO;aDOES NOT CONTAIN AS NORMAL SUBGROUP OR EQUAL
aVERTICAL ELLIPSIS;aMIDLINE HORIZONTAL ELLIPSIS;aUP RIGHT DIAGONAL ELLIPSIS
aDOWN RIGHT DIAGONAL ELLIPSIS;aELEMENT OF WITH LONG HORIZONTAL STROKE
dVERTICAL BAR AT END OF HORIZONTAL STROKE
aSMALL ELEMENT OF WITH VERTICAL BAR AT END OF HORIZONTAL STROKE;aELEMENT OF WITH DOT ABOVE
dOVERBAR;aSMALL ELEMENT OF WITH OVERBAR;aELEMENT OF WITH UNDERBAR;dTWO HORIZONTAL STROKES
aCONTAINS WITH LONG HORIZONTAL STROKE;cVERTICAL BAR AT END OF HORIZONTAL STROKE
aSMALL CONTAINS WITH VERTICAL BAR AT END OF HORIZONTAL STROKE;aCONTAINS WITH OVERBAR
aSMALL CONTAINS WITH OVERBAR;aZ NOTATION BAG MEMBERSHIP;aDIAMETER SIGN;aELECTRIC ARROW;aHOUSE
aUP ARROWHEAD;aDOWN ARROWHEAD;aPROJECTIVE;aPERSPECTIVE;aWAVY LINE;aLEFT CEILING;aRIGHT CEILING
aLEFT FLOOR;aRIGHT FLOOR;aBOTTOM RIGHT CROP;bLEFT CROP;aTOP RIGHT CROP;bLEFT CROP
aREVERSED NOT SIGN;aSQUARE LOZENGE;aARC;aSEGMENT;aSECTOR;aTELEPHONE RECORDER;aPOSITION INDICATOR
aVIEWDATA SQUARE;aPLACE OF INTEREST SIGN;aTURNED NOT SIGN;aWATCH;aHOURGLASS;aTOP LEFT CORNER
bRIGHT CORNER;aBOTTOM LEFT CORNER;bRIGHT CORNER;aTOP HALF INTEGRAL;aBOTTOM HALF INTEGRAL;aFROWN
aSMILE;aUP ARROWHEAD BETWEEN TWO HORIZONTAL BARS;aOPTION KEY;aERASE TO THE RIGHT
aX IN A RECTANGLE BOX;aKEYBOARD;aLEFT-POINTING ANGLE BRACKET;aRIGHT-POINTING ANGLE BRACKET
aERASE TO THE LEFT;aBENZENE RING;aCYLINDRICITY;aALL AROUND-PROFILE;aSYMMETRY;aTOTAL RUNOUT
aDIMENSION ORIGIN;aCONICAL TAPER;aSLOPE;aCOUNTERBORE;aCOUNTERSINK;aAPL FUNCTIONAL SYMBOL I-BEAM
dSQUISH QUAD;dQUAD EQUAL;eDIVIDE;eDIAMOND;eJOT;eCIRCLE;dCIRCLE STILE;eJOT;dSLASH BAR
dBACKSLASH BAR;dQUAD SLASH;eBACKSLASH;eLESS-THAN;eGREATER-THAN;dLEFTWARDS VANE;dRIGHTWARDS VANE
dQUAD LEFTWARDS ARROW;eRIGHTWARDS ARROW;dCIRCLE BACKSLASH;dDOWN TACK UNDERBAR;dDELTA STILE
dQUAD DOWN CARET;eDELTA;dDOWN TACK JOT;dUPWARDS VANE;dQUAD UPWARDS ARROW;dUP TACK OVERBAR
dDEL STILE;dQUAD UP CARET;eDEL;dUP TACK JOT;dDOWNWARDS VANE;dQUAD DOWNWARDS ARROW;dQUOTE UNDERBAR
dDELTA UNDERBAR;dDIAMOND UNDERBAR;dJOT UNDERBAR;dCIRCLE UNDERBAR;dUP SHOE JOT;dQUOTE QUAD
dCIRCLE STAR;dQUAD COLON;dUP TACK DIAERESIS;dDEL DIAERESIS;dSTAR DIAERESIS;dJOT DIAERESIS
dCIRCLE DIAERESIS;dDOWN SHOE STILE;dLEFT SHOE STILE;dTILDE DIAERESIS;dGREATER-THAN DIAERESIS
dCOMMA BAR;dDEL TILDE;dZILDE;dSTILE TILDE;dSEMICOLON UNDERBAR;dQUAD NOT EQUAL;eQUESTION
dDOWN CARET TILDE;dUP CARET TILDE;dIOTA;dRHO;dOMEGA;dALPHA UNDERBAR;dEPSILON UNDERBAR
dIOTA UNDERBAR;dOMEGA UNDERBAR;dALPHA;aNOT CHECK MARK;aRIGHT ANGLE WITH DOWNWARDS ZIGZAG ARROW
aSHOULDERED OPEN BOX;aBELL SYMBOL;aVERTICAL LINE WITH MIDDLE DOT;aINSERTION SYMBOL
aCONTINUOUS UNDERLINE SYMBOL;aDISCONTINUOUS UNDERLINE SYMBOL;aEMPHASIS SYMBOL;aCOMPOSITION SYMBOL
aWHITE SQUARE WITH CENTRE VERTICAL LINE;aENTER SYMBOL;aALTERNATIVE KEY SYMBOL;aHELM SYMBOL
aCIRCLED HORIZONTAL BAR WITH NOTCH;bTRIANGLE DOWN;aBROKEN CIRCLE WITH NORTHWEST ARROW;aUNDO SYMBOL
aMONOSTABLE SYMBOL;aHYSTERESIS SYMBOL;aOPEN-CIRCUIT-OUTPUT H-TYPE SYMBOL;bL-TYPE SYMBOL
aPASSIVE-PULL-DOWN-OUTPUT SYMBOL;aPASSIVE-PULL-UP-OUTPUT SYMBOL;aDIRECT CURRENT SYMBOL FORM TWO
aSOFTWARE-FUNCTION SYMBOL;aAPL FUNCTIONAL SYMBOL QUAD;aDECIMAL SEPARATOR KEY SYMBOL;aPREVIOUS PAGE
aNEXT PAGE;aPRINT SCREEN SYMBOL;aCLEAR SCREEN SYMBOL;aLEFT PARENTHESIS UPPER HOOK;cEXTENSION
cLOWER HOOK;aRIGHT PARENTHESIS UPPER HOOK;cEXTENSION;cLOWER HOOK;aLEFT SQUARE BRACKET UPPER CORNER
dEXTENSION;dLOWER CORNER;aRIGHT SQUARE BRACKET UPPER CORNER;dEXTENSION;dLOWER CORNER
aLEFT CURLY BRACKET UPPER HOOK;dMIDDLE PIECE;dLOWER HOOK;aCURLY BRACKET EXTENSION
aRIGHT CURLY BRACKET UPPER HOOK;dMIDDLE PIECE;dLOWER HOOK;aINTEGRAL EXTENSION
aHORIZONTAL LINE EXTENSION;aUPPER LEFT OR LOWER RIGHT CURLY BRACKET SECTION
bRIGHT OR LOWER LEFT CURLY BRACKET SECTION;aSUMMATION TOP;bBOTTOM;aTOP SQUARE BRACKET
aBOTTOM SQUARE BRACKET;dOVER TOP SQUARE BRACKET;aRADICAL SYMBOL BOTTOM;aLEFT VERTICAL BOX LINE
aRIGHT VERTICAL BOX LINE;aHORIZONTAL SCAN LINE-1;cLINE-3;cLINE-7;cLINE-9
aDENTISTRY SYMBOL LIGHT VERTICAL AND TOP RIGHT;fBOTTOM RIGHT;eWITH CIRCLE
dDOWN AND HORIZONTAL WITH CIRCLE;dUP AND HORIZONTAL WITH CIRCLE;dVERTICAL WITH TRIANGLE
dDOWN AND HORIZONTAL WITH TRIANGLE;dUP AND HORIZONTAL WITH TRIANGLE;dVERTICAL AND WAVE
dDOWN AND HORIZONTAL WITH WAVE;dUP AND HORIZONTAL WITH WAVE;dDOWN AND HORIZONTAL
dUP AND HORIZONTAL;dVERTICAL AND TOP LEFT;fBOTTOM LEFT;aSQUARE FOOT;aRETURN SYMBOL;aEJECT SYMBOL
aVERTICAL LINE EXTENSION;aMETRICAL BREVE;bLONG OVER SHORT;bSHORT OVER LONG;bLONG OVER TWO SHORTS
bTWO SHORTS OVER LONG;dJOINED;bTRISEME;bTETRASEME;bPENTASEME;aEARTH GROUND;aFUSE;aTOP PARENTHESIS
aBOTTOM PARENTHESIS;aTOP CURLY BRACKET;aBOTTOM CURLY BRACKET;aTOP TORTOISE SHELL BRACKET
aBOTTOM TORTOISE SHELL BRACKET;aWHITE TRAPEZIUM;aBENZENE RING WITH CIRCLE;aSTRAIGHTNESS;aFLATNESS
aAC CURRENT;aELECTRICAL INTERSECTION;aDECIMAL EXPONENT SYMBOL
aBLACK RIGHT-POINTING DOUBLE TRIANGLE;bLEFT-POINTING DOUBLE TRIANGLE;bUP-POINTING DOUBLE TRIANGLE
bDOWN-POINTING DOUBLE TRIANGLE;bRIGHT-POINTING DOUBLE TRIANGLE WITH VERTICAL BAR
bLEFT-POINTING DOUBLE TRIANGLE WITH VERTICAL BAR;bRIGHT-POINTING TRIANGLE WITH DOUBLE VERTICAL BAR
aALARM CLOCK;aSTOPWATCH;aTIMER CLOCK;aHOURGLASS WITH FLOWING SAND
aBLACK MEDIUM LEFT-POINTING TRIANGLE;cRIGHT-POINTING TRIANGLE;cUP-POINTING TRIANGLE
cDOWN-POINTING TRIANGLE;aDOUBLE VERTICAL BAR;aBLACK SQUARE FOR STOP;bCIRCLE FOR RECORD
aPOWER SYMBOL;bON-OFF SYMBOL;bON SYMBOL;bSLEEP SYMBOL;aOBSERVER EYE SYMBOL;aSYMBOL FOR NULL
cSTART OF HEADING;eTEXT;cEND OF TEXT;eTRANSMISSION;cENQUIRY;cACKNOWLEDGE;cBELL;cBACKSPACE
cHORIZONTAL TABULATION;cLINE FEED;cVERTICAL TABULATION;cFORM FEED;cCARRIAGE RETURN;cSHIFT OUT;dIN
cDATA LINK ESCAPE;cDEVICE CONTROL ONE;eTWO;eTHREE;eFOUR;cNEGATIVE ACKNOWLEDGE;cSYNCHRONOUS IDLE
cEND OF TRANSMISSION BLOCK;cCANCEL;cEND OF MEDIUM;cSUBSTITUTE;cESCAPE;cFILE SEPARATOR
cGROUP SEPARATOR;cRECORD SEPARATOR;cUNIT SEPARATOR;cSPACE;cDELETE;aBLANK SYMBOL;aOPEN BOX
aSYMBOL FOR NEWLINE;cDELETE FORM TWO;cSUBSTITUTE FORM TWO;@2440;aOCR HOOK;bCHAIR;bFORK
bINVERTED FORK;bBELT BUCKLE;bBOW TIE;bBRANCH BANK IDENTIFICATION;bAMOUNT OF CHECK;bDASH
bCUSTOMER ACCOUNT NUMBER;bDOUBLE BACKSLASH;@2460;aCIRCLED DIGIT ONE;cTWO;cTHREE;cFOUR;cFIVE;cSIX
cSEVEN;cEIGHT;cNINE;bNUMBER TEN;cELEVEN;cTWELVE;cTHIRTEEN;cFOURTEEN;cFIFTEEN;cSIXTEEN;cSEVENTEEN
cEIGHTEEN;cNINETEEN;cTWENTY;aPARENTHESIZED DIGIT ONE;cTWO;cTHREE;cFOUR;cFIVE;cSIX;cSEVEN;cEIGHT
cNINE;bNUMBER TEN;cELEVEN;cTWELVE;cTHIRTEEN;cFOURTEEN;cFIFTEEN;cSIXTEEN;cSEVENTEEN;cEIGHTEEN
cNINETEEN;cTWENTY;aDIGIT ONE FULL STOP;bTWO FULL STOP;bTHREE FULL STOP;bFOUR FULL STOP
bFIVE FULL STOP;bSIX FULL STOP;bSEVEN FULL STOP;bEIGHT FULL STOP;bNINE FULL STOP
aNUMBER TEN FULL STOP;bELEVEN FULL STOP;bTWELVE FULL STOP;bTHIRTEEN FULL STOP;bFOURTEEN FULL STOP
bFIFTEEN FULL STOP;bSIXTEEN FULL STOP;bSEVENTEEN FULL STOP;bEIGHTEEN FULL STOP;bNINETEEN FULL STOP
bTWENTY FULL STOP;aPARENTHESIZED LATIN SMALL LETTER A;eB;eC;eD;eE;eF;eG;eH;eI;eJ;eK;eL;eM;eN;eO;eP
eQ;eR;eS;eT;eU;eV;eW;eX;eY;eZ;aCIRCLED LATIN CAPITAL LETTER A;eB;eC;eD;eE;eF;eG;eH;eI;eJ;eK;eL;eM
eN;eO;eP;eQ;eR;eS;eT;eU;eV;eW;eX;eY;eZ;cSMALL LETTER A;eB;eC;eD;eE;eF;eG;eH;eI;eJ;eK;eL;eM;eN;eO
eP;eQ;eR;eS;eT;eU;eV;eW;eX;eY;eZ;bDIGIT ZERO;aNEGATIVE CIRCLED NUMBER ELEVEN;dTWELVE;dTHIRTEEN
dFOURTEEN;dFIFTEEN;dSIXTEEN;dSEVENTEEN;dEIGHTEEN;dNINETEEN;dTWENTY;aDOUBLE CIRCLED DIGIT ONE;dTWO
dTHREE;dFOUR;dFIVE;dSIX;dSEVEN;dEIGHT;dNINE;cNUMBER TEN;aNEGATIVE CIRCLED DIGIT ZERO
aBOX DRAWINGS LIGHT HORIZONTAL;cHEAVY HORIZONTAL;cLIGHT VERTICAL;cHEAVY VERTICAL
cLIGHT TRIPLE DASH HORIZONTAL;cHEAVY TRIPLE DASH HORIZONTAL;cLIGHT TRIPLE DASH VERTICAL
cHEAVY TRIPLE DASH VERTICAL;cLIGHT QUADRUPLE DASH HORIZONTAL;cHEAVY QUADRUPLE DASH HORIZONTAL
cLIGHT QUADRUPLE DASH VERTICAL;cHEAVY QUADRUPLE DASH VERTICAL;cLIGHT DOWN AND RIGHT
cDOWN LIGHT AND RIGHT HEAVY;dHEAVY AND RIGHT LIGHT;cHEAVY DOWN AND RIGHT;cLIGHT DOWN AND LEFT
cDOWN LIGHT AND LEFT HEAVY;dHEAVY AND LEFT LIGHT;cHEAVY DOWN AND LEFT;cLIGHT UP AND RIGHT
cUP LIGHT AND RIGHT HEAVY;dHEAVY AND RIGHT LIGHT;cHEAVY UP AND RIGHT;cLIGHT UP AND LEFT
cUP LIGHT AND LEFT HEAVY;dHEAVY AND LEFT LIGHT;cHEAVY UP AND LEFT;cLIGHT VERTICAL AND RIGHT
cVERTICAL LIGHT AND RIGHT HEAVY;cUP HEAVY AND RIGHT DOWN LIGHT;cDOWN HEAVY AND RIGHT UP LIGHT
cVERTICAL HEAVY AND RIGHT LIGHT;cDOWN LIGHT AND RIGHT UP HEAVY;cUP LIGHT AND RIGHT DOWN HEAVY
cHEAVY VERTICAL AND RIGHT;cLIGHT VERTICAL AND LEFT;cVERTICAL LIGHT AND LEFT HEAVY
cUP HEAVY AND LEFT DOWN LIGHT;cDOWN HEAVY AND LEFT UP LIGHT;cVERTICAL HEAVY AND LEFT LIGHT
cDOWN LIGHT AND LEFT UP HEAVY;cUP LIGHT AND LEFT DOWN HEAVY;cHEAVY VERTICAL AND LEFT
cLIGHT DOWN AND HORIZONTAL;cLEFT HEAVY AND RIGHT DOWN LIGHT;cRIGHT HEAVY AND LEFT DOWN LIGHT
cDOWN LIGHT AND HORIZONTAL HEAVY;dHEAVY AND HORIZONTAL LIGHT;cRIGHT LIGHT AND LEFT DOWN HEAVY
cLEFT LIGHT AND RIGHT DOWN HEAVY;cHEAVY DOWN AND HORIZONTAL;cLIGHT UP AND HORIZONTAL
cLEFT HEAVY AND RIGHT UP LIGHT;cRIGHT HEAVY AND LEFT UP LIGHT;cUP LIGHT AND HORIZONTAL HEAVY
dHEAVY AND HORIZONTAL LIGHT;cRIGHT LIGHT AND LEFT UP HEAVY;cLEFT LIGHT AND RIGHT UP HEAVY
cHEAVY UP AND HORIZONTAL;cLIGHT VERTICAL AND HORIZONTAL;cLEFT HEAVY AND RIGHT VERTICAL LIGHT
cRIGHT HEAVY AND LEFT VERTICAL LIGHT;cVERTICAL LIGHT AND HORIZONTAL HEAVY
cUP HEAVY AND DOWN HORIZONTAL LIGHT;cDOWN HEAVY AND UP HORIZONTAL LIGHT
cVERTICAL HEAVY AND HORIZONTAL LIGHT;cLEFT UP HEAVY AND RIGHT DOWN LIGHT
cRIGHT UP HEAVY AND LEFT DOWN LIGHT;cLEFT DOWN HEAVY AND RIGHT UP LIGHT
cRIGHT DOWN HEAVY AND LEFT UP LIGHT;cDOWN LIGHT AND UP HORIZONTAL HEAVY
cUP LIGHT AND DOWN HORIZONTAL HEAVY;cRIGHT LIGHT AND LEFT VERTICAL HEAVY
cLEFT LIGHT AND RIGHT VERTICAL HEAVY;cHEAVY VERTICAL AND HORIZONTAL;cLIGHT DOUBLE DASH HORIZONTAL
cHEAVY DOUBLE DASH HORIZONTAL;cLIGHT DOUBLE DASH VERTICAL;cHEAVY DOUBLE DASH VERTICAL
cDOUBLE HORIZONTAL;dVERTICAL;cDOWN SINGLE AND RIGHT DOUBLE;dDOUBLE AND RIGHT SINGLE
cDOUBLE DOWN AND RIGHT;cDOWN SINGLE AND LEFT DOUBLE;dDOUBLE AND LEFT SINGLE;cDOUBLE DOWN AND LEFT
cUP SINGLE AND RIGHT DOUBLE;dDOUBLE AND RIGHT SINGLE;cDOUBLE UP AND RIGHT
cUP SINGLE AND LEFT DOUBLE;dDOUBLE AND LEFT SINGLE;cDOUBLE UP AND LEFT
cVERTICAL SINGLE AND RIGHT DOUBLE;dDOUBLE AND RIGHT SINGLE;cDOUBLE VERTICAL AND RIGHT
cVERTICAL SINGLE AND LEFT DOUBLE;dDOUBLE AND LEFT SINGLE;cDOUBLE VERTICAL AND LEFT
cDOWN SINGLE AND HORIZONTAL DOUBLE;dDOUBLE AND HORIZONTAL SINGLE;cDOUBLE DOWN AND HORIZONTAL
cUP SINGLE AND HORIZONTAL DOUBLE;dDOUBLE AND HORIZONTAL SINGLE;cDOUBLE UP AND HORIZONTAL
cVERTICAL SINGLE AND HORIZONTAL DOUBLE;dDOUBLE AND HORIZONTAL SINGLE
cDOUBLE VERTICAL AND HORIZONTAL;cLIGHT ARC DOWN AND RIGHT;gLEFT;eUP AND LEFT;gRIGHT
dDIAGONAL UPPER RIGHT TO LOWER LEFT;fLEFT TO LOWER RIGHT;eCROSS;dLEFT;dUP;dRIGHT;dDOWN;cHEAVY LEFT
dUP;dRIGHT;dDOWN;cLIGHT LEFT AND HEAVY RIGHT;dUP AND HEAVY DOWN;cHEAVY LEFT AND LIGHT RIGHT
dUP AND LIGHT DOWN;aUPPER HALF BLOCK;aLOWER ONE EIGHTH BLOCK;cQUARTER BLOCK;bTHREE EIGHTHS BLOCK
bHALF BLOCK;bFIVE EIGHTHS BLOCK;bTHREE QUARTERS BLOCK;bSEVEN EIGHTHS BLOCK;aFULL BLOCK
aLEFT SEVEN EIGHTHS BLOCK;bTHREE QUARTERS BLOCK;bFIVE EIGHTHS BLOCK;bHALF BLOCK
bTHREE EIGHTHS BLOCK;bONE QUARTER BLOCK;cEIGHTH BLOCK;aRIGHT HALF BLOCK;aLIGHT SHADE;aMEDIUM SHADE
aDARK SHADE;aUPPER ONE EIGHTH BLOCK;aRIGHT ONE EIGHTH BLOCK;aQUADRANT LOWER LEFT;cRIGHT
bUPPER LEFT;dAND LOWER LEFT AND LOWER RIGHT;fRIGHT;eUPPER RIGHT AND LOWER LEFT;iRIGHT;cRIGHT
dAND LOWER LEFT;gAND LOWER RIGHT;aBLACK SQUARE;aWHITE SQUARE;cWITH ROUNDED CORNERS
cCONTAINING BLACK SMALL SQUARE;aSQUARE WITH HORIZONTAL FILL;cVERTICAL FILL
cORTHOGONAL CROSSHATCH FILL;cUPPER LEFT TO LOWER RIGHT FILL;dRIGHT TO LOWER LEFT FILL
cDIAGONAL CROSSHATCH FILL;aBLACK SMALL SQUARE;aWHITE SMALL SQUARE;aBLACK RECTANGLE
aWHITE RECTANGLE;aBLACK VERTICAL RECTANGLE;aWHITE VERTICAL RECTANGLE;aBLACK PARALLELOGRAM
aWHITE PARALLELOGRAM;aBLACK UP-POINTING TRIANGLE;aWHITE UP-POINTING TRIANGLE
aBLACK UP-POINTING SMALL TRIANGLE;aWHITE UP-POINTING SMALL TRIANGLE;aBLACK RIGHT-POINTING TRIANGLE
aWHITE RIGHT-POINTING TRIANGLE;aBLACK RIGHT-POINTING SMALL TRIANGLE
aWHITE RIGHT-POINTING SMALL TRIANGLE;aBLACK RIGHT-POINTING POINTER;aWHITE RIGHT-POINTING POINTER
aBLACK DOWN-POINTING TRIANGLE;aWHITE DOWN-POINTING TRIANGLE;aBLACK DOWN-POINTING SMALL TRIANGLE
aWHITE DOWN-POINTING SMALL TRIANGLE;aBLACK LEFT-POINTING TRIANGLE;aWHITE LEFT-POINTING TRIANGLE
aBLACK LEFT-POINTING SMALL TRIANGLE;aWHITE LEFT-POINTING SMALL TRIANGLE
aBLACK LEFT-POINTING POINTER;aWHITE LEFT-POINTING POINTER;aBLACK DIAMOND;aWHITE DIAMOND
cCONTAINING BLACK SMALL DIAMOND;aFISHEYE;aLOZENGE;aWHITE CIRCLE;aDOTTED CIRCLE
aCIRCLE WITH VERTICAL FILL;aBULLSEYE;aBLACK CIRCLE;aCIRCLE WITH LEFT HALF BLACK;cRIGHT HALF BLACK
cLOWER HALF BLACK;cUPPER HALF BLACK;dRIGHT QUADRANT BLACK;cALL BUT UPPER LEFT QUADRANT BLACK
aLEFT HALF BLACK CIRCLE;aRIGHT HALF BLACK CIRCLE;aINVERSE BULLET;bWHITE CIRCLE
aUPPER HALF INVERSE WHITE CIRCLE;aLOWER HALF INVERSE WHITE CIRCLE
aUPPER LEFT QUADRANT CIRCULAR ARC;bRIGHT QUADRANT CIRCULAR ARC;aLOWER RIGHT QUADRANT CIRCULAR ARC
bLEFT QUADRANT CIRCULAR ARC;aUPPER HALF CIRCLE;aLOWER HALF CIRCLE;aBLACK LOWER RIGHT TRIANGLE
cLEFT TRIANGLE;bUPPER LEFT TRIANGLE;cRIGHT TRIANGLE;aWHITE BULLET;aSQUARE WITH LEFT HALF BLACK
cRIGHT HALF BLACK;cUPPER LEFT DIAGONAL HALF BLACK;cLOWER RIGHT DIAGONAL HALF BLACK
aWHITE SQUARE WITH VERTICAL BISECTING LINE;bUP-POINTING TRIANGLE WITH DOT
aUP-POINTING TRIANGLE WITH LEFT HALF BLACK;dRIGHT HALF BLACK;aLARGE CIRCLE
aWHITE SQUARE WITH UPPER LEFT QUADRANT;dLOWER LEFT QUADRANT;eRIGHT QUADRANT;dUPPER RIGHT QUADRANT
bCIRCLE WITH UPPER LEFT QUADRANT;dLOWER LEFT QUADRANT;eRIGHT QUADRANT;dUPPER RIGHT QUADRANT
aUPPER LEFT TRIANGLE;bRIGHT TRIANGLE;aLOWER LEFT TRIANGLE;aWHITE MEDIUM SQUARE
aBLACK MEDIUM SQUARE;aWHITE MEDIUM SMALL SQUARE;aBLACK MEDIUM SMALL SQUARE;aLOWER RIGHT TRIANGLE
aBLACK SUN WITH RAYS;aCLOUD;aUMBRELLA;aSNOWMAN;aCOMET;aBLACK STAR;aWHITE STAR;aLIGHTNING
aTHUNDERSTORM;aSUN;aASCENDING NODE;aDESCENDING NODE;aCONJUNCTION;aOPPOSITION;aBLACK TELEPHONE
aWHITE TELEPHONE;aBALLOT BOX;cWITH CHECK;dX;aSALTIRE;aUMBRELLA WITH RAIN DROPS;aHOT BEVERAGE
aWHITE SHOGI PIECE;aBLACK SHOGI PIECE;aSHAMROCK;aREVERSED ROTATED FLORAL HEART BULLET
aBLACK LEFT POINTING INDEX;bRIGHT POINTING INDEX;aWHITE LEFT POINTING INDEX;bUP POINTING INDEX
bRIGHT POINTING INDEX;bDOWN POINTING INDEX;aSKULL AND CROSSBONES;aCAUTION SIGN;aRADIOACTIVE SIGN
aBIOHAZARD SIGN;aCADUCEUS;aANKH;aORTHODOX CROSS;aCHI RHO;aCROSS OF LORRAINE;cJERUSALEM
aSTAR AND CRESCENT;aFARSI SYMBOL;aADI SHAKTI;aHAMMER AND SICKLE;aPEACE SYMBOL;aYIN YANG
aTRIGRAM FOR HEAVEN;cLAKE;cFIRE;cTHUNDER;cWIND;cWATER;cMOUNTAIN;cEARTH;aWHEEL OF DHARMA
aWHITE FROWNING FACE;bSMILING FACE;aBLACK SMILING FACE;aWHITE SUN WITH RAYS;aFIRST QUARTER MOON
aLAST QUARTER MOON;aMERCURY;aFEMALE SIGN;aEARTH;aMALE SIGN;aJUPITER;aSATURN;aURANUS;aNEPTUNE
aPLUTO;aARIES;aTAURUS;aGEMINI;aCANCER;aLEO;aVIRGO;aLIBRA;aSCORPIUS;aSAGITTARIUS;aCAPRICORN
aAQUARIUS;aPISCES;aWHITE CHESS KING;cQUEEN;cROOK;cBISHOP;cKNIGHT;cPAWN;aBLACK CHESS KING;cQUEEN
cROOK;cBISHOP;cKNIGHT;cPAWN;bSPADE SUIT;aWHITE HEART SUIT;bDIAMOND SUIT;aBLACK CLUB SUIT
aWHITE SPADE SUIT;aBLACK HEART SUIT;bDIAMOND SUIT;aWHITE CLUB SUIT;aHOT SPRINGS;aQUARTER NOTE
aEIGHTH NOTE;aBEAMED EIGHTH NOTES;bSIXTEENTH NOTES;aMUSIC FLAT SIGN;bNATURAL SIGN;bSHARP SIGN
aWEST SYRIAC CROSS;aEAST SYRIAC CROSS;aUNIVERSAL RECYCLING SYMBOL
aRECYCLING SYMBOL FOR TYPE-1 PLASTICS;dTYPE-2 PLASTICS;dTYPE-3 PLASTICS;dTYPE-4 PLASTICS
dTYPE-5 PLASTICS;dTYPE-6 PLASTICS;dTYPE-7 PLASTICS;dGENERIC MATERIALS
aBLACK UNIVERSAL RECYCLING SYMBOL;aRECYCLED PAPER SYMBOL;aPARTIALLY-RECYCLED PAPER SYMBOL
aPERMANENT PAPER SIGN;aWHEELCHAIR SYMBOL;aDIE FACE-1;bFACE-2;bFACE-3;bFACE-4;bFACE-5;bFACE-6
aWHITE CIRCLE WITH DOT RIGHT;dTWO DOTS;aBLACK CIRCLE WITH WHITE DOT RIGHT;dTWO WHITE DOTS
aMONOGRAM FOR YANG;cYIN;aDIGRAM FOR GREATER YANG;cLESSER YIN;dYANG;cGREATER YIN;aWHITE FLAG
aBLACK FLAG;aHAMMER AND PICK;aANCHOR;aCROSSED SWORDS;aSTAFF OF AESCULAPIUS;aSCALES;aALEMBIC
aFLOWER;aGEAR;aSTAFF OF HERMES;aATOM SYMBOL;aFLEUR-DE-LIS;aOUTLINED WHITE STAR
aTHREE LINES CONVERGING RIGHT;dLEFT;aWARNING SIGN;aHIGH VOLTAGE SIGN;aDOUBLED FEMALE SIGN
bMALE SIGN;aINTERLOCKED FEMALE AND MALE SIGN;aMALE AND FEMALE SIGN;bWITH STROKE SIGN
dAND MALE AND FEMALE SIGN;aVERTICAL MALE WITH STROKE SIGN;aHORIZONTAL MALE WITH STROKE SIGN
aMEDIUM WHITE CIRCLE;bBLACK CIRCLE;bSMALL WHITE CIRCLE;aMARRIAGE SYMBOL;aDIVORCE SYMBOL
aUNMARRIED PARTNERSHIP SYMBOL;aCOFFIN;aFUNERAL URN;aNEUTER;aCERES;aPALLAS;aJUNO;aVESTA;aCHIRON
aBLACK MOON LILITH;aSEXTILE;aSEMISEXTILE;aQUINCUNX;aSESQUIQUADRATE;aSOCCER BALL;aBASEBALL
aSQUARED KEY;aWHITE DRAUGHTS MAN;cKING;aBLACK DRAUGHTS MAN;cKING;aSNOWMAN WITHOUT SNOW
aSUN BEHIND CLOUD;aRAIN;aBLACK SNOWMAN;aTHUNDER CLOUD AND RAIN;aTURNED WHITE SHOGI PIECE
bBLACK SHOGI PIECE;aWHITE DIAMOND IN SQUARE;aCROSSING LANES;aDISABLED CAR;aOPHIUCHUS;aPICK
aCAR SLIDING;aHELMET WITH WHITE CROSS;aCIRCLED CROSSING LANES;aCHAINS;aNO ENTRY
aALTERNATE ONE-WAY LEFT WAY TRAFFIC;aBLACK TWO-WAY LEFT WAY TRAFFIC
aWHITE TWO-WAY LEFT WAY TRAFFIC;aBLACK LEFT LANE MERGE;aWHITE LEFT LANE MERGE;aDRIVE SLOW SIGN
aHEAVY WHITE DOWN-POINTING TRIANGLE;aLEFT CLOSED ENTRY;aSQUARED SALTIRE
aFALLING DIAGONAL IN WHITE CIRCLE IN BLACK SQUARE;aBLACK TRUCK;aRESTRICTED LEFT ENTRY-1;cENTRY-2
aASTRONOMICAL SYMBOL FOR URANUS;aHEAVY CIRCLE WITH STROKE AND TWO DOTS ABOVE;aPENTAGRAM
aRIGHT-HANDED INTERLACED PENTAGRAM;aLEFT-HANDED INTERLACED PENTAGRAM;aINVERTED PENTAGRAM
aBLACK CROSS ON SHIELD;aSHINTO SHRINE;aCHURCH;aCASTLE;aHISTORIC SITE;aGEAR WITHOUT HUB
bWITH HANDLES;aMAP SYMBOL FOR LIGHTHOUSE;aMOUNTAIN;aUMBRELLA ON GROUND;aFOUNTAIN;aFLAG IN HOLE
aFERRY;aSAILBOAT;aSQUARE FOUR CORNERS;aSKIER;aICE SKATE;aPERSON WITH BALL;aTENT
aJAPANESE BANK SYMBOL;aHEADSTONE GRAVEYARD SYMBOL;aFUEL PUMP;aCUP ON BLACK SQUARE
aWHITE FLAG WITH HORIZONTAL MIDDLE BLACK STRIPE;aBLACK SAFETY SCISSORS;aUPPER BLADE SCISSORS
aBLACK SCISSORS;aLOWER BLADE SCISSORS;aWHITE SCISSORS;bHEAVY CHECK MARK;aTELEPHONE LOCATION SIGN
aTAPE DRIVE;aAIRPLANE;aENVELOPE;aRAISED FIST;bHAND;aVICTORY HAND;aWRITING HAND;aLOWER RIGHT PENCIL
aPENCIL;aUPPER RIGHT PENCIL;aWHITE NIB;aBLACK NIB;aCHECK MARK;aHEAVY CHECK MARK;aMULTIPLICATION X
aHEAVY MULTIPLICATION X;aBALLOT X;aHEAVY BALLOT X;aOUTLINED GREEK CROSS;aHEAVY GREEK CROSS
aOPEN CENTRE CROSS;aHEAVY OPEN CENTRE CROSS;aLATIN CROSS;aSHADOWED WHITE LATIN CROSS
aOUTLINED LATIN CROSS;aMALTESE CROSS;aSTAR OF DAVID;aFOUR TEARDROP-SPOKED ASTERISK
bBALLOON-SPOKED ASTERISK;aHEAVY FOUR BALLOON-SPOKED ASTERISK;aFOUR CLUB-SPOKED ASTERISK
aBLACK FOUR POINTED STAR;aWHITE FOUR POINTED STAR;aSPARKLES;aSTRESS OUTLINED WHITE STAR
aCIRCLED WHITE STAR;aOPEN CENTRE BLACK STAR;aBLACK CENTRE WHITE STAR;aOUTLINED BLACK STAR
aHEAVY OUTLINED BLACK STAR;aPINWHEEL STAR;aSHADOWED WHITE STAR;aHEAVY ASTERISK
aOPEN CENTRE ASTERISK;aEIGHT SPOKED ASTERISK;bPOINTED BLACK STAR;cPINWHEEL STAR
aSIX POINTED BLACK STAR;aEIGHT POINTED RECTILINEAR BLACK STAR
aHEAVY EIGHT POINTED RECTILINEAR BLACK STAR;aTWELVE POINTED BLACK STAR;aSIXTEEN POINTED ASTERISK
aTEARDROP-SPOKED ASTERISK;aOPEN CENTRE TEARDROP-SPOKED ASTERISK;aHEAVY TEARDROP-SPOKED ASTERISK
aSIX PETALLED BLACK AND WHITE FLORETTE;aBLACK FLORETTE;aWHITE FLORETTE
aEIGHT PETALLED OUTLINED BLACK FLORETTE;aCIRCLED OPEN CENTRE EIGHT POINTED STAR
aHEAVY TEARDROP-SPOKED PINWHEEL ASTERISK;aSNOWFLAKE;aTIGHT TRIFOLIATE SNOWFLAKE
aHEAVY CHEVRON SNOWFLAKE;aSPARKLE;aHEAVY SPARKLE;aBALLOON-SPOKED ASTERISK
aEIGHT TEARDROP-SPOKED PROPELLER ASTERISK;aHEAVY EIGHT TEARDROP-SPOKED PROPELLER ASTERISK
aCROSS MARK;aSHADOWED WHITE CIRCLE;aNEGATIVE SQUARED CROSS MARK
aLOWER RIGHT DROP-SHADOWED WHITE SQUARE;aUPPER RIGHT DROP-SHADOWED WHITE SQUARE
aLOWER RIGHT SHADOWED WHITE SQUARE;aUPPER RIGHT SHADOWED WHITE SQUARE
aBLACK QUESTION MARK ORNAMENT;aWHITE QUESTION MARK ORNAMENT;bEXCLAMATION MARK ORNAMENT
aBLACK DIAMOND MINUS WHITE X;aHEAVY EXCLAMATION MARK SYMBOL;aLIGHT VERTICAL BAR
aMEDIUM VERTICAL BAR;aHEAVY VERTICAL BAR;bSINGLE TURNED COMMA QUOTATION MARK ORNAMENT
cCOMMA QUOTATION MARK ORNAMENT;bDOUBLE TURNED COMMA QUOTATION MARK ORNAMENT
cCOMMA QUOTATION MARK ORNAMENT;bLOW SINGLE COMMA QUOTATION MARK ORNAMENT
cDOUBLE COMMA QUOTATION MARK ORNAMENT;aCURVED STEM PARAGRAPH SIGN ORNAMENT
aHEAVY EXCLAMATION MARK ORNAMENT;bHEART EXCLAMATION MARK ORNAMENT;bBLACK HEART
aROTATED HEAVY BLACK HEART BULLET;aFLORAL HEART;aROTATED FLORAL HEART BULLET
aMEDIUM LEFT PARENTHESIS ORNAMENT;bRIGHT PARENTHESIS ORNAMENT;bFLATTENED LEFT PARENTHESIS ORNAMENT
cRIGHT PARENTHESIS ORNAMENT;bLEFT-POINTING ANGLE BRACKET ORNAMENT
bRIGHT-POINTING ANGLE BRACKET ORNAMENT;aHEAVY LEFT-POINTING ANGLE QUOTATION MARK ORNAMENT
bRIGHT-POINTING ANGLE QUOTATION MARK ORNAMENT;bLEFT-POINTING ANGLE BRACKET ORNAMENT
bRIGHT-POINTING ANGLE BRACKET ORNAMENT;aLIGHT LEFT TORTOISE SHELL BRACKET ORNAMENT
bRIGHT TORTOISE SHELL BRACKET ORNAMENT;aMEDIUM LEFT CURLY BRACKET ORNAMENT
bRIGHT CURLY BRACKET ORNAMENT;aDINGBAT NEGATIVE CIRCLED DIGIT ONE;eTWO;eTHREE;eFOUR;eFIVE;eSIX
eSEVEN;eEIGHT;eNINE;dNUMBER TEN;bCIRCLED SANS-SERIF DIGIT ONE;eTWO;eTHREE;eFOUR;eFIVE;eSIX;eSEVEN
eEIGHT;eNINE;dNUMBER TEN;bNEGATIVE CIRCLED SANS-SERIF DIGIT ONE;fTWO;fTHREE;fFOUR;fFIVE;fSIX
fSEVEN;fEIGHT;fNINE;eNUMBER TEN;aHEAVY WIDE-HEADED RIGHTWARDS ARROW;bPLUS SIGN;bMINUS SIGN
bDIVISION SIGN;bSOUTH EAST ARROW;bRIGHTWARDS ARROW;bNORTH EAST ARROW
aDRAFTING POINT RIGHTWARDS ARROW;aHEAVY ROUND-TIPPED RIGHTWARDS ARROW
aTRIANGLE-HEADED RIGHTWARDS ARROW;aHEAVY TRIANGLE-HEADED RIGHTWARDS ARROW
aDASHED TRIANGLE-HEADED RIGHTWARDS ARROW;aHEAVY DASHED TRIANGLE-HEADED RIGHTWARDS ARROW
aBLACK RIGHTWARDS ARROW;aTHREE-D TOP-LIGHTED RIGHTWARDS ARROWHEAD
bBOTTOM-LIGHTED RIGHTWARDS ARROWHEAD;aBLACK RIGHTWARDS ARROWHEAD
aHEAVY BLACK CURVED DOWNWARDS AND RIGHTWARDS ARROW;dUPWARDS AND RIGHTWARDS ARROW
aSQUAT BLACK RIGHTWARDS ARROW;aHEAVY CONCAVE-POINTED BLACK RIGHTWARDS ARROW
aRIGHT-SHADED WHITE RIGHTWARDS ARROW;aLEFT-SHADED WHITE RIGHTWARDS ARROW
aBACK-TILTED SHADOWED WHITE RIGHTWARDS ARROW;aFRONT-TILTED SHADOWED WHITE RIGHTWARDS ARROW
aHEAVY LOWER RIGHT-SHADOWED WHITE RIGHTWARDS ARROW;bUPPER RIGHT-SHADOWED WHITE RIGHTWARDS ARROW
aNOTCHED LOWER RIGHT-SHADOWED WHITE RIGHTWARDS ARROW;aCURLY LOOP
aNOTCHED UPPER RIGHT-SHADOWED WHITE RIGHTWARDS ARROW;aCIRCLED HEAVY WHITE RIGHTWARDS ARROW
aWHITE-FEATHERED RIGHTWARDS ARROW;aBLACK-FEATHERED SOUTH EAST ARROW;bRIGHTWARDS ARROW
bNORTH EAST ARROW;aHEAVY BLACK-FEATHERED SOUTH EAST ARROW;cRIGHTWARDS ARROW;cNORTH EAST ARROW
aTEARDROP-BARBED RIGHTWARDS ARROW;aHEAVY TEARDROP-SHANKED RIGHTWARDS ARROW
aWEDGE-TAILED RIGHTWARDS ARROW;aHEAVY WEDGE-TAILED RIGHTWARDS ARROW
aOPEN-OUTLINED RIGHTWARDS ARROW;aDOUBLE CURLY LOOP;aTHREE DIMENSIONAL ANGLE
aWHITE TRIANGLE CONTAINING SMALL WHITE TRIANGLE;aPERPENDICULAR;aOPEN SUBSET;bSUPERSET
aLEFT S-SHAPED BAG DELIMITER;aRIGHT S-SHAPED BAG DELIMITER;aOR WITH DOT INSIDE
aREVERSE SOLIDUS PRECEDING SUBSET;aSUPERSET PRECEDING SOLIDUS;aVERTICAL BAR WITH HORIZONTAL STROKE
aMATHEMATICAL RISING DIAGONAL;aLONG DIVISION;aMATHEMATICAL FALLING DIAGONAL;aSQUARED LOGICAL AND
cOR;aWHITE DIAMOND WITH CENTRED DOT;aAND WITH DOT;aELEMENT OF OPENING UPWARDS
aLOWER RIGHT CORNER WITH DOT;aUPPER LEFT CORNER WITH DOT;aLEFT OUTER JOIN;aRIGHT OUTER JOIN
aFULL OUTER JOIN;aLARGE UP TACK;bDOWN TACK;aLEFT AND RIGHT DOUBLE TURNSTILE;dTACK;bMULTIMAP
aLONG RIGHT TACK;bLEFT TACK;aUP TACK WITH CIRCLE ABOVE;aLOZENGE DIVIDED BY HORIZONTAL RULE
aWHITE CONCAVE-SIDED DIAMOND;dWITH LEFTWARDS TICK;eRIGHTWARDS TICK;bSQUARE WITH LEFTWARDS TICK
dRIGHTWARDS TICK;aMATHEMATICAL LEFT WHITE SQUARE BRACKET;bRIGHT WHITE SQUARE BRACKET
bLEFT ANGLE BRACKET;bRIGHT ANGLE BRACKET;bLEFT DOUBLE ANGLE BRACKET;bRIGHT DOUBLE ANGLE BRACKET
bLEFT WHITE TORTOISE SHELL BRACKET;bRIGHT WHITE TORTOISE SHELL BRACKET;bLEFT FLATTENED PARENTHESIS
bRIGHT FLATTENED PARENTHESIS;aUPWARDS QUADRUPLE ARROW;aDOWNWARDS QUADRUPLE ARROW
aANTICLOCKWISE GAPPED CIRCLE ARROW;aCLOCKWISE GAPPED CIRCLE ARROW;aRIGHT ARROW WITH CIRCLED PLUS
aLONG LEFTWARDS ARROW;bRIGHTWARDS ARROW;bLEFT RIGHT ARROW;bLEFTWARDS DOUBLE ARROW
bRIGHTWARDS DOUBLE ARROW;bLEFT RIGHT DOUBLE ARROW;bLEFTWARDS ARROW FROM BAR
bRIGHTWARDS ARROW FROM BAR;bLEFTWARDS DOUBLE ARROW FROM BAR;bRIGHTWARDS DOUBLE ARROW FROM BAR
cSQUIGGLE ARROW;aBRAILLE PATTERN BLANK;cDOTS-1;cDOTS-2;cDOTS-12;cDOTS-3;cDOTS-13;cDOTS-23
cDOTS-123;cDOTS-4;cDOTS-14;cDOTS-24;cDOTS-124;cDOTS-34;cDOTS-134;cDOTS-234;cDOTS-1234;cDOTS-5
cDOTS-15;cDOTS-25;cDOTS-125;cDOTS-35;cDOTS-135;cDOTS-235;cDOTS-1235;cDOTS-45;cDOTS-145;cDOTS-245
cDOTS-1245;cDOTS-345;cDOTS-1345;cDOTS-2345;cDOTS-12345;cDOTS-6;cDOTS-16;cDOTS-26;cDOTS-126
cDOTS-36;cDOTS-136;cDOTS-236;cDOTS-1236;cDOTS-46;cDOTS-146;cDOTS-246;cDOTS-1246;cDOTS-346
cDOTS-1346;cDOTS-2346;cDOTS-12346;cDOTS-56;cDOTS-156;cDOTS-256;cDOTS-1256;cDOTS-356;cDOTS-1356
cDOTS-2356;cDOTS-12356;cDOTS-456;cDOTS-1456;cDOTS-2456;cDOTS-12456;cDOTS-3456;cDOTS-13456
cDOTS-23456;cDOTS-123456;cDOTS-7;cDOTS-17;cDOTS-27;cDOTS-127;cDOTS-37;cDOTS-137;cDOTS-237
cDOTS-1237;cDOTS-47;cDOTS-147;cDOTS-247;cDOTS-1247;cDOTS-347;cDOTS-1347;cDOTS-2347;cDOTS-12347
cDOTS-57;cDOTS-157;cDOTS-257;cDOTS-1257;cDOTS-357;cDOTS-1357;cDOTS-2357;cDOTS-12357;cDOTS-457
cDOTS-1457;cDOTS-2457;cDOTS-12457;cDOTS-3457;cDOTS-13457;cDOTS-23457;cDOTS-123457;cDOTS-67
cDOTS-167;cDOTS-267;cDOTS-1267;cDOTS-367;cDOTS-1367;cDOTS-2367;cDOTS-12367;cDOTS-467;cDOTS-1467
cDOTS-2467;cDOTS-12467;cDOTS-3467;cDOTS-13467;cDOTS-23467;cDOTS-123467;cDOTS-567;cDOTS-1567
cDOTS-2567;cDOTS-12567;cDOTS-3567;cDOTS-13567;cDOTS-23567;cDOTS-123567;cDOTS-4567;cDOTS-14567
cDOTS-24567;cDOTS-124567;cDOTS-34567;cDOTS-134567;cDOTS-234567;cDOTS-1234567;cDOTS-8;cDOTS-18
cDOTS-28;cDOTS-128;cDOTS-38;cDOTS-138;cDOTS-238;cDOTS-1238;cDOTS-48;cDOTS-148;cDOTS-248;cDOTS-1248
cDOTS-348;cDOTS-1348;cDOTS-2348;cDOTS-12348;cDOTS-58;cDOTS-158;cDOTS-258;cDOTS-1258;cDOTS-358
cDOTS-1358;cDOTS-2358;cDOTS-12358;cDOTS-458;cDOTS-1458;cDOTS-2458;cDOTS-12458;cDOTS-3458
cDOTS-13458;cDOTS-23458;cDOTS-123458;cDOTS-68;cDOTS-168;cDOTS-268;cDOTS-1268;cDOTS-368;cDOTS-1368
cDOTS-2368;cDOTS-12368;cDOTS-468;cDOTS-1468;cDOTS-2468;cDOTS-12468;cDOTS-3468;cDOTS-13468
cDOTS-23468;cDOTS-123468;cDOTS-568;cDOTS-1568;cDOTS-2568;cDOTS-12568;cDOTS-3568;cDOTS-13568
cDOTS-23568;cDOTS-123568;cDOTS-4568;cDOTS-14568;cDOTS-24568;cDOTS-124568;cDOTS-34568;cDOTS-134568
cDOTS-234568;cDOTS-1234568;cDOTS-78;cDOTS-178;cDOTS-278;cDOTS-1278;cDOTS-378;cDOTS-1378;cDOTS-2378
cDOTS-12378;cDOTS-478;cDOTS-1478;cDOTS-2478;cDOTS-12478;cDOTS-3478;cDOTS-13478;cDOTS-23478
cDOTS-123478;cDOTS-578;cDOTS-1578;cDOTS-2578;cDOTS-12578;cDOTS-3578;cDOTS-13578;cDOTS-23578
cDOTS-123578;cDOTS-4578;cDOTS-14578;cDOTS-24578;cDOTS-124578;cDOTS-34578;cDOTS-134578;cDOTS-234578
cDOTS-1234578;cDOTS-678;cDOTS-1678;cDOTS-2678;cDOTS-12678;cDOTS-3678;cDOTS-13678;cDOTS-23678
cDOTS-123678;cDOTS-4678;cDOTS-14678;cDOTS-24678;cDOTS-124678;cDOTS-34678;cDOTS-134678;cDOTS-234678
cDOTS-1234678;cDOTS-5678;cDOTS-15678;cDOTS-25678;cDOTS-125678;cDOTS-35678;cDOTS-135678
cDOTS-235678;cDOTS-1235678;cDOTS-45678;cDOTS-145678;cDOTS-245678;cDOTS-1245678;cDOTS-345678
cDOTS-1345678;cDOTS-2345678;cDOTS-12345678;aRIGHTWARDS TWO-HEADED ARROW WITH VERTICAL STROKE
eDOUBLE VERTICAL STROKE;aLEFTWARDS DOUBLE ARROW WITH VERTICAL STROKE
aRIGHTWARDS DOUBLE ARROW WITH VERTICAL STROKE;aLEFT RIGHT DOUBLE ARROW WITH VERTICAL STROKE
aRIGHTWARDS TWO-HEADED ARROW FROM BAR;aLEFTWARDS DOUBLE ARROW FROM BAR
aRIGHTWARDS DOUBLE ARROW FROM BAR;aDOWNWARDS ARROW WITH HORIZONTAL STROKE
aUPWARDS ARROW WITH HORIZONTAL STROKE;bTRIPLE ARROW;aDOWNWARDS TRIPLE ARROW
aLEFTWARDS DOUBLE DASH ARROW;aRIGHTWARDS DOUBLE DASH ARROW;aLEFTWARDS TRIPLE DASH ARROW
aRIGHTWARDS TRIPLE DASH ARROW;bTWO-HEADED TRIPLE DASH ARROW;bARROW WITH DOTTED STEM
aUPWARDS ARROW TO BAR;aDOWNWARDS ARROW TO BAR;aRIGHTWARDS ARROW WITH TAIL WITH VERTICAL STROKE
fDOUBLE VERTICAL STROKE;bTWO-HEADED ARROW WITH TAIL;fWITH VERTICAL STROKE;gDOUBLE VERTICAL STROKE
aLEFTWARDS ARROW-TAIL;aRIGHTWARDS ARROW-TAIL;aLEFTWARDS DOUBLE ARROW-TAIL
aRIGHTWARDS DOUBLE ARROW-TAIL;aLEFTWARDS ARROW TO BLACK DIAMOND;aRIGHTWARDS ARROW TO BLACK DIAMOND
aLEFTWARDS ARROW FROM BAR TO BLACK DIAMOND;aRIGHTWARDS ARROW FROM BAR TO BLACK DIAMOND
aNORTH WEST AND SOUTH EAST ARROW;bEAST AND SOUTH WEST ARROW;bWEST ARROW WITH HOOK
bEAST ARROW WITH HOOK;aSOUTH EAST ARROW WITH HOOK;bWEST ARROW WITH HOOK
aNORTH WEST ARROW AND NORTH EAST ARROW;bEAST ARROW AND SOUTH EAST ARROW
aSOUTH EAST ARROW AND SOUTH WEST ARROW;bWEST ARROW AND NORTH WEST ARROW
aRISING DIAGONAL CROSSING FALLING DIAGONAL;aFALLING DIAGONAL CROSSING RISING DIAGONAL
aSOUTH EAST ARROW CROSSING NORTH EAST ARROW;aNORTH EAST ARROW CROSSING SOUTH EAST ARROW
aFALLING DIAGONAL CROSSING NORTH EAST ARROW;aRISING DIAGONAL CROSSING SOUTH EAST ARROW
aNORTH EAST ARROW CROSSING NORTH WEST ARROW;bWEST ARROW CROSSING NORTH EAST ARROW
aWAVE ARROW POINTING DIRECTLY RIGHT;aARROW POINTING RIGHTWARDS THEN CURVING UPWARDS;fDOWNWARDS
cDOWNWARDS THEN CURVING LEFTWARDS;fRIGHTWARDS;aRIGHT-SIDE ARC CLOCKWISE ARROW
aLEFT-SIDE ARC ANTICLOCKWISE ARROW;aTOP ARC ANTICLOCKWISE ARROW;aBOTTOM ARC ANTICLOCKWISE ARROW
aTOP ARC CLOCKWISE ARROW WITH MINUS;cANTICLOCKWISE ARROW WITH PLUS
aLOWER RIGHT SEMICIRCULAR CLOCKWISE ARROW;bLEFT SEMICIRCULAR ANTICLOCKWISE ARROW
aANTICLOCKWISE CLOSED CIRCLE ARROW;aCLOCKWISE CLOSED CIRCLE ARROW
aRIGHTWARDS ARROW ABOVE SHORT LEFTWARDS ARROW;aLEFTWARDS ARROW ABOVE SHORT RIGHTWARDS ARROW
aSHORT RIGHTWARDS ARROW ABOVE LEFTWARDS ARROW;aRIGHTWARDS ARROW WITH PLUS BELOW
aLEFTWARDS ARROW WITH PLUS BELOW;aRIGHTWARDS ARROW THROUGH X
aLEFT RIGHT ARROW THROUGH SMALL CIRCLE;aUPWARDS TWO-HEADED ARROW FROM SMALL CIRCLE
aLEFT BARB UP RIGHT BARB DOWN HARPOON;cDOWN RIGHT BARB UP HARPOON
aUP BARB RIGHT DOWN BARB LEFT HARPOON;cLEFT DOWN BARB RIGHT HARPOON
aLEFT BARB UP RIGHT BARB UP HARPOON;aUP BARB RIGHT DOWN BARB RIGHT HARPOON
aLEFT BARB DOWN RIGHT BARB DOWN HARPOON;aUP BARB LEFT DOWN BARB LEFT HARPOON
aLEFTWARDS HARPOON WITH BARB UP TO BAR;aRIGHTWARDS HARPOON WITH BARB UP TO BAR
aUPWARDS HARPOON WITH BARB RIGHT TO BAR;aDOWNWARDS HARPOON WITH BARB RIGHT TO BAR
aLEFTWARDS HARPOON WITH BARB DOWN TO BAR;aRIGHTWARDS HARPOON WITH BARB DOWN TO BAR
aUPWARDS HARPOON WITH BARB LEFT TO BAR;aDOWNWARDS HARPOON WITH BARB LEFT TO BAR
aLEFTWARDS HARPOON WITH BARB UP FROM BAR;aRIGHTWARDS HARPOON WITH BARB UP FROM BAR
aUPWARDS HARPOON WITH BARB RIGHT FROM BAR;aDOWNWARDS HARPOON WITH BARB RIGHT FROM BAR
aLEFTWARDS HARPOON WITH BARB DOWN FROM BAR;aRIGHTWARDS HARPOON WITH BARB DOWN FROM BAR
aUPWARDS HARPOON WITH BARB LEFT FROM BAR;aDOWNWARDS HARPOON WITH BARB LEFT FROM BAR
aLEFTWARDS HARPOON WITH BARB UP ABOVE LEFTWARDS HARPOON WITH BARB DOWN
aUPWARDS HARPOON WITH BARB LEFT BESIDE UPWARDS HARPOON WITH BARB RIGHT
aRIGHTWARDS HARPOON WITH BARB UP ABOVE RIGHTWARDS HARPOON WITH BARB DOWN
aDOWNWARDS HARPOON WITH BARB LEFT BESIDE DOWNWARDS HARPOON WITH BARB RIGHT
aLEFTWARDS HARPOON WITH BARB UP ABOVE RIGHTWARDS HARPOON WITH BARB UP
eDOWN ABOVE RIGHTWARDS HARPOON WITH BARB DOWN
aRIGHTWARDS HARPOON WITH BARB UP ABOVE LEFTWARDS HARPOON WITH BARB UP
eDOWN ABOVE LEFTWARDS HARPOON WITH BARB DOWN;aLEFTWARDS HARPOON WITH BARB UP ABOVE LONG DASH
eDOWN BELOW LONG DASH;aRIGHTWARDS HARPOON WITH BARB UP ABOVE LONG DASH;eDOWN BELOW LONG DASH
aUPWARDS HARPOON WITH BARB LEFT BESIDE DOWNWARDS HARPOON WITH BARB RIGHT
aDOWNWARDS HARPOON WITH BARB LEFT BESIDE UPWARDS HARPOON WITH BARB RIGHT
aRIGHT DOUBLE ARROW WITH ROUNDED HEAD;aEQUALS SIGN ABOVE RIGHTWARDS ARROW
aTILDE OPERATOR ABOVE RIGHTWARDS ARROW;aLEFTWARDS ARROW ABOVE TILDE OPERATOR
aRIGHTWARDS ARROW ABOVE TILDE OPERATOR;dALMOST EQUAL TO;aLESS-THAN ABOVE LEFTWARDS ARROW
aLEFTWARDS ARROW THROUGH LESS-THAN;aGREATER-THAN ABOVE RIGHTWARDS ARROW
aSUBSET ABOVE RIGHTWARDS ARROW;aLEFTWARDS ARROW THROUGH SUBSET;aSUPERSET ABOVE LEFTWARDS ARROW
aLEFT FISH TAIL;aRIGHT FISH TAIL;aUP FISH TAIL;aDOWN FISH TAIL;aTRIPLE VERTICAL BAR DELIMITER
aZ NOTATION SPOT;cTYPE COLON;aLEFT WHITE CURLY BRACKET;aRIGHT WHITE CURLY BRACKET
aLEFT WHITE PARENTHESIS;aRIGHT WHITE PARENTHESIS;aZ NOTATION LEFT IMAGE BRACKET
cRIGHT IMAGE BRACKET;cLEFT BINDING BRACKET;cRIGHT BINDING BRACKET
aLEFT SQUARE BRACKET WITH UNDERBAR;aRIGHT SQUARE BRACKET WITH UNDERBAR
aLEFT SQUARE BRACKET WITH TICK IN TOP CORNER;aRIGHT SQUARE BRACKET WITH TICK IN BOTTOM CORNER
aLEFT SQUARE BRACKET WITH TICK IN BOTTOM CORNER;aRIGHT SQUARE BRACKET WITH TICK IN TOP CORNER
aLEFT ANGLE BRACKET WITH DOT;aRIGHT ANGLE BRACKET WITH DOT;aLEFT ARC LESS-THAN BRACKET
aRIGHT ARC GREATER-THAN BRACKET;aDOUBLE LEFT ARC GREATER-THAN BRACKET;bRIGHT ARC LESS-THAN BRACKET
aLEFT BLACK TORTOISE SHELL BRACKET;aRIGHT BLACK TORTOISE SHELL BRACKET;aDOTTED FENCE
aVERTICAL ZIGZAG LINE;aMEASURED ANGLE OPENING LEFT;aRIGHT ANGLE VARIANT WITH SQUARE
aMEASURED RIGHT ANGLE WITH DOT;aANGLE WITH S INSIDE;aACUTE ANGLE;aSPHERICAL ANGLE OPENING LEFT;dUP
aTURNED ANGLE;aREVERSED ANGLE;aANGLE WITH UNDERBAR;aREVERSED ANGLE WITH UNDERBAR
aOBLIQUE ANGLE OPENING UP;dDOWN
aMEASURED ANGLE WITH OPEN ARM ENDING IN ARROW POINTING UP AND RIGHT;lLEFT;jDOWN AND RIGHT;lLEFT
jRIGHT AND UP;jLEFT AND UP;jRIGHT AND DOWN;jLEFT AND DOWN;aREVERSED EMPTY SET
aEMPTY SET WITH OVERBAR;dSMALL CIRCLE ABOVE;dRIGHT ARROW ABOVE;dLEFT ARROW ABOVE
aCIRCLE WITH HORIZONTAL BAR;aCIRCLED VERTICAL BAR;bPARALLEL;bREVERSE SOLIDUS;bPERPENDICULAR
aCIRCLE DIVIDED BY HORIZONTAL BAR AND TOP HALF DIVIDED BY VERTICAL BAR;bWITH SUPERIMPOSED X
aCIRCLED ANTICLOCKWISE-ROTATED DIVISION SIGN;aUP ARROW THROUGH CIRCLE;aCIRCLED WHITE BULLET
bBULLET;bLESS-THAN;bGREATER-THAN;aCIRCLE WITH SMALL CIRCLE TO THE RIGHT
cTWO HORIZONTAL STROKES TO THE RIGHT;aSQUARED RISING DIAGONAL SLASH;bFALLING DIAGONAL SLASH
bASTERISK;bSMALL CIRCLE;bSQUARE;aTWO JOINED SQUARES;aTRIANGLE WITH DOT ABOVE;cUNDERBAR
aS IN TRIANGLE;aTRIANGLE WITH SERIFS AT BOTTOM;aRIGHT TRIANGLE ABOVE LEFT TRIANGLE
aLEFT TRIANGLE BESIDE VERTICAL BAR;aVERTICAL BAR BESIDE RIGHT TRIANGLE
aBOWTIE WITH LEFT HALF BLACK;cRIGHT HALF BLACK;aBLACK BOWTIE;aTIMES WITH LEFT HALF BLACK
cRIGHT HALF BLACK;aWHITE HOURGLASS;aBLACK HOURGLASS;aLEFT WIGGLY FENCE;aRIGHT WIGGLY FENCE
aLEFT DOUBLE WIGGLY FENCE;aRIGHT DOUBLE WIGGLY FENCE;aINCOMPLETE INFINITY;aTIE OVER INFINITY
aINFINITY NEGATED WITH VERTICAL BAR;aDOUBLE-ENDED MULTIMAP;aSQUARE WITH CONTOURED OUTLINE
aINCREASES AS;aSHUFFLE PRODUCT;aEQUALS SIGN AND SLANTED PARALLEL;fWITH TILDE ABOVE
aIDENTICAL TO AND SLANTED PARALLEL;aGLEICH STARK;aTHERMODYNAMIC
aDOWN-POINTING TRIANGLE WITH LEFT HALF BLACK;dRIGHT HALF BLACK;aBLACK DIAMOND WITH DOWN ARROW
bLOZENGE;aWHITE CIRCLE WITH DOWN ARROW;aBLACK CIRCLE WITH DOWN ARROW;aERROR-BARRED WHITE SQUARE
bBLACK SQUARE;bWHITE DIAMOND;bBLACK DIAMOND;bWHITE CIRCLE;bBLACK CIRCLE;aRULE-DELAYED
aREVERSE SOLIDUS OPERATOR;aSOLIDUS WITH OVERBAR;aREVERSE SOLIDUS WITH HORIZONTAL STROKE
aBIG SOLIDUS;bREVERSE SOLIDUS;aDOUBLE PLUS;aTRIPLE PLUS;aLEFT-POINTING CURVED ANGLE BRACKET
aRIGHT-POINTING CURVED ANGLE BRACKET;aTINY;aMINY;aN-ARY CIRCLED DOT OPERATOR;cPLUS OPERATOR
cTIMES OPERATOR;bUNION OPERATOR WITH DOT;ePLUS;bSQUARE INTERSECTION OPERATOR;cUNION OPERATOR
aTWO LOGICAL AND OPERATOR;cOR OPERATOR;aN-ARY TIMES OPERATOR;aMODULO TWO SUM
aSUMMATION WITH INTEGRAL;aQUADRUPLE INTEGRAL OPERATOR;aFINITE PART INTEGRAL
aINTEGRAL WITH DOUBLE STROKE;bAVERAGE WITH SLASH;aCIRCULATION FUNCTION;aANTICLOCKWISE INTEGRATION
aLINE INTEGRATION WITH RECTANGULAR PATH AROUND POLE;dSEMICIRCULAR PATH AROUND POLE
cNOT INCLUDING THE POLE;aINTEGRAL AROUND A POINT OPERATOR;aQUATERNION INTEGRAL OPERATOR
aINTEGRAL WITH LEFTWARDS ARROW WITH HOOK;cTIMES SIGN;cINTERSECTION;cUNION;cOVERBAR;cUNDERBAR;aJOIN
aLARGE LEFT TRIANGLE OPERATOR;aZ NOTATION SCHEMA COMPOSITION;dPIPING;dPROJECTION
aPLUS SIGN WITH SMALL CIRCLE ABOVE;dCIRCUMFLEX ACCENT ABOVE;dTILDE ABOVE;dDOT BELOW;dTILDE BELOW
dSUBSCRIPT TWO;dBLACK TRIANGLE;aMINUS SIGN WITH COMMA ABOVE;dDOT BELOW;dFALLING DOTS;dRISING DOTS
aPLUS SIGN IN LEFT HALF CIRCLE;dRIGHT HALF CIRCLE;aVECTOR OR CROSS PRODUCT
aMULTIPLICATION SIGN WITH DOT ABOVE;dUNDERBAR;aSEMIDIRECT PRODUCT WITH BOTTOM CLOSED
aSMASH PRODUCT;aMULTIPLICATION SIGN IN LEFT HALF CIRCLE;dRIGHT HALF CIRCLE
aCIRCLED MULTIPLICATION SIGN WITH CIRCUMFLEX ACCENT;aMULTIPLICATION SIGN IN DOUBLE CIRCLE
aCIRCLED DIVISION SIGN;aPLUS SIGN IN TRIANGLE;aMINUS SIGN IN TRIANGLE
aMULTIPLICATION SIGN IN TRIANGLE;aINTERIOR PRODUCT;aRIGHTHAND INTERIOR PRODUCT
aZ NOTATION RELATIONAL COMPOSITION;aAMALGAMATION OR COPRODUCT;aINTERSECTION WITH DOT
aUNION WITH MINUS SIGN;cOVERBAR;aINTERSECTION WITH OVERBAR;cLOGICAL AND;aUNION WITH LOGICAL OR
bABOVE INTERSECTION;aINTERSECTION ABOVE UNION;aUNION ABOVE BAR ABOVE INTERSECTION
aINTERSECTION ABOVE BAR ABOVE UNION;aUNION BESIDE AND JOINED WITH UNION
aINTERSECTION BESIDE AND JOINED WITH INTERSECTION;aCLOSED UNION WITH SERIFS
bINTERSECTION WITH SERIFS;aDOUBLE SQUARE INTERSECTION;cUNION
aCLOSED UNION WITH SERIFS AND SMASH PRODUCT;aLOGICAL AND WITH DOT ABOVE;bOR WITH DOT ABOVE
aDOUBLE LOGICAL AND;cOR;aTWO INTERSECTING LOGICAL AND;dOR;aSLOPING LARGE OR;cAND
aLOGICAL OR OVERLAPPING LOGICAL AND;bAND WITH MIDDLE STEM;bOR WITH MIDDLE STEM
bAND WITH HORIZONTAL DASH;bOR WITH HORIZONTAL DASH;bAND WITH DOUBLE OVERBAR;dUNDERBAR
dDOUBLE UNDERBAR;aSMALL VEE WITH UNDERBAR;aLOGICAL OR WITH DOUBLE OVERBAR;eUNDERBAR
aZ NOTATION DOMAIN ANTIRESTRICTION;cRANGE ANTIRESTRICTION;aEQUALS SIGN WITH DOT BELOW
aIDENTICAL WITH DOT ABOVE;aTRIPLE HORIZONTAL BAR WITH DOUBLE VERTICAL STROKE
eTRIPLE VERTICAL STROKE;aTILDE OPERATOR WITH DOT ABOVE;dRISING DOTS;aSIMILAR MINUS SIMILAR
aCONGRUENT WITH DOT ABOVE;aEQUALS WITH ASTERISK;aALMOST EQUAL TO WITH CIRCUMFLEX ACCENT
aAPPROXIMATELY EQUAL OR EQUAL TO;aEQUALS SIGN ABOVE PLUS SIGN;aPLUS SIGN ABOVE EQUALS SIGN
aEQUALS SIGN ABOVE TILDE OPERATOR;aDOUBLE COLON EQUAL;aTWO CONSECUTIVE EQUALS SIGNS
aTHREE CONSECUTIVE EQUALS SIGNS;aEQUALS SIGN WITH TWO DOTS ABOVE AND TWO DOTS BELOW
aEQUIVALENT WITH FOUR DOTS ABOVE;aLESS-THAN WITH CIRCLE INSIDE;aGREATER-THAN WITH CIRCLE INSIDE
aLESS-THAN WITH QUESTION MARK ABOVE;aGREATER-THAN WITH QUESTION MARK ABOVE
aLESS-THAN OR SLANTED EQUAL TO;aGREATER-THAN OR SLANTED EQUAL TO
aLESS-THAN OR SLANTED EQUAL TO WITH DOT INSIDE;aGREATER-THAN OR SLANTED EQUAL TO WITH DOT INSIDE
aLESS-THAN OR SLANTED EQUAL TO WITH DOT ABOVE;aGREATER-THAN OR SLANTED EQUAL TO WITH DOT ABOVE
aLESS-THAN OR SLANTED EQUAL TO WITH DOT ABOVE RIGHT
aGREATER-THAN OR SLANTED EQUAL TO WITH DOT ABOVE LEFT;aLESS-THAN OR APPROXIMATE
aGREATER-THAN OR APPROXIMATE;aLESS-THAN AND SINGLE-LINE NOT EQUAL TO
aGREATER-THAN AND SINGLE-LINE NOT EQUAL TO;aLESS-THAN AND NOT APPROXIMATE
aGREATER-THAN AND NOT APPROXIMATE;aLESS-THAN ABOVE DOUBLE-LINE EQUAL ABOVE GREATER-THAN
aGREATER-THAN ABOVE DOUBLE-LINE EQUAL ABOVE LESS-THAN;aLESS-THAN ABOVE SIMILAR OR EQUAL
aGREATER-THAN ABOVE SIMILAR OR EQUAL;aLESS-THAN ABOVE SIMILAR ABOVE GREATER-THAN
aGREATER-THAN ABOVE SIMILAR ABOVE LESS-THAN;aLESS-THAN ABOVE GREATER-THAN ABOVE DOUBLE-LINE EQUAL
aGREATER-THAN ABOVE LESS-THAN ABOVE DOUBLE-LINE EQUAL
aLESS-THAN ABOVE SLANTED EQUAL ABOVE GREATER-THAN ABOVE SLANTED EQUAL
aGREATER-THAN ABOVE SLANTED EQUAL ABOVE LESS-THAN ABOVE SLANTED EQUAL
aSLANTED EQUAL TO OR LESS-THAN;eGREATER-THAN;eLESS-THAN WITH DOT INSIDE
eGREATER-THAN WITH DOT INSIDE;aDOUBLE-LINE EQUAL TO OR LESS-THAN;eGREATER-THAN
bSLANTED EQUAL TO OR LESS-THAN;fGREATER-THAN;aSIMILAR OR LESS-THAN;cGREATER-THAN
bABOVE LESS-THAN ABOVE EQUALS SIGN;cGREATER-THAN ABOVE EQUALS SIGN;aDOUBLE NESTED LESS-THAN
cGREATER-THAN;cLESS-THAN WITH UNDERBAR;aGREATER-THAN OVERLAPPING LESS-THAN;bBESIDE LESS-THAN
aLESS-THAN CLOSED BY CURVE;aGREATER-THAN CLOSED BY CURVE
aLESS-THAN CLOSED BY CURVE ABOVE SLANTED EQUAL;aGREATER-THAN CLOSED BY CURVE ABOVE SLANTED EQUAL
aSMALLER THAN;aLARGER THAN;aSMALLER THAN OR EQUAL TO;aLARGER THAN OR EQUAL TO
aEQUALS SIGN WITH BUMPY ABOVE;aPRECEDES ABOVE SINGLE-LINE EQUALS SIGN
aSUCCEEDS ABOVE SINGLE-LINE EQUALS SIGN;aPRECEDES ABOVE SINGLE-LINE NOT EQUAL TO
aSUCCEEDS ABOVE SINGLE-LINE NOT EQUAL TO;aPRECEDES ABOVE EQUALS SIGN;aSUCCEEDS ABOVE EQUALS SIGN
aPRECEDES ABOVE NOT EQUAL TO;aSUCCEEDS ABOVE NOT EQUAL TO;aPRECEDES ABOVE ALMOST EQUAL TO
aSUCCEEDS ABOVE ALMOST EQUAL TO;aPRECEDES ABOVE NOT ALMOST EQUAL TO
aSUCCEEDS ABOVE NOT ALMOST EQUAL TO;aDOUBLE PRECEDES;bSUCCEEDS;aSUBSET WITH DOT;aSUPERSET WITH DOT
aSUBSET WITH PLUS SIGN BELOW;aSUPERSET WITH PLUS SIGN BELOW;aSUBSET WITH MULTIPLICATION SIGN BELOW
aSUPERSET WITH MULTIPLICATION SIGN BELOW;aSUBSET OF OR EQUAL TO WITH DOT ABOVE
aSUPERSET OF OR EQUAL TO WITH DOT ABOVE;aSUBSET OF ABOVE EQUALS SIGN
aSUPERSET OF ABOVE EQUALS SIGN;aSUBSET OF ABOVE TILDE OPERATOR;aSUPERSET OF ABOVE TILDE OPERATOR
aSUBSET OF ABOVE ALMOST EQUAL TO;aSUPERSET OF ABOVE ALMOST EQUAL TO;aSUBSET OF ABOVE NOT EQUAL TO
aSUPERSET OF ABOVE NOT EQUAL TO;aSQUARE LEFT OPEN BOX OPERATOR;bRIGHT OPEN BOX OPERATOR
aCLOSED SUBSET;bSUPERSET;bSUBSET OR EQUAL TO;bSUPERSET OR EQUAL TO;aSUBSET ABOVE SUPERSET
aSUPERSET ABOVE SUBSET;aSUBSET ABOVE SUBSET;aSUPERSET ABOVE SUPERSET;bBESIDE SUBSET
cAND JOINED BY DASH WITH SUBSET;aELEMENT OF OPENING DOWNWARDS;aPITCHFORK WITH TEE TOP
aTRANSVERSAL INTERSECTION;aFORKING;aNONFORKING;aSHORT LEFT TACK;bDOWN TACK;bUP TACK
aPERPENDICULAR WITH S;aVERTICAL BAR TRIPLE RIGHT TURNSTILE;aDOUBLE VERTICAL BAR LEFT TURNSTILE
aVERTICAL BAR DOUBLE LEFT TURNSTILE;aDOUBLE VERTICAL BAR DOUBLE LEFT TURNSTILE
aLONG DASH FROM LEFT MEMBER OF DOUBLE VERTICAL;aSHORT DOWN TACK WITH OVERBAR
bUP TACK WITH UNDERBAR;dABOVE SHORT DOWN TACK;aDOUBLE DOWN TACK;bUP TACK;bSTROKE NOT SIGN
aREVERSED DOUBLE STROKE NOT SIGN;aDOES NOT DIVIDE WITH REVERSED NEGATION SLASH
aVERTICAL LINE WITH CIRCLE ABOVE;eBELOW;aDOWN TACK WITH CIRCLE BELOW
aPARALLEL WITH HORIZONTAL STROKE;cTILDE OPERATOR;aTRIPLE VERTICAL BAR BINARY RELATION
dWITH HORIZONTAL STROKE;bCOLON OPERATOR;bNESTED LESS-THAN;cGREATER-THAN
aDOUBLE-LINE SLANTED LESS-THAN OR EQUAL TO;cGREATER-THAN OR EQUAL TO
aTRIPLE SOLIDUS BINARY RELATION;aLARGE TRIPLE VERTICAL BAR OPERATOR;aDOUBLE SOLIDUS OPERATOR
aWHITE VERTICAL BAR;aN-ARY WHITE VERTICAL BAR;aNORTH EAST WHITE ARROW;bWEST WHITE ARROW
aSOUTH EAST WHITE ARROW;bWEST WHITE ARROW;aLEFT RIGHT WHITE ARROW;aLEFTWARDS BLACK ARROW
aUPWARDS BLACK ARROW;aDOWNWARDS BLACK ARROW;aNORTH EAST BLACK ARROW;bWEST BLACK ARROW
aSOUTH EAST BLACK ARROW;bWEST BLACK ARROW;aLEFT RIGHT BLACK ARROW;aUP DOWN BLACK ARROW
aRIGHTWARDS ARROW WITH TIP DOWNWARDS;eUPWARDS;aLEFTWARDS ARROW WITH TIP DOWNWARDS;eUPWARDS
aSQUARE WITH TOP HALF BLACK;cBOTTOM HALF BLACK;cUPPER RIGHT DIAGONAL HALF BLACK
cLOWER LEFT DIAGONAL HALF BLACK;aDIAMOND WITH LEFT HALF BLACK;cRIGHT HALF BLACK;cTOP HALF BLACK
cBOTTOM HALF BLACK;aDOTTED SQUARE;aBLACK LARGE SQUARE;aWHITE LARGE SQUARE;aBLACK VERY SMALL SQUARE
aWHITE VERY SMALL SQUARE;aBLACK PENTAGON;aWHITE PENTAGON;bHEXAGON;aBLACK HEXAGON
aHORIZONTAL BLACK HEXAGON;aBLACK LARGE CIRCLE;bMEDIUM DIAMOND;aWHITE MEDIUM DIAMOND
aBLACK MEDIUM LOZENGE;aWHITE MEDIUM LOZENGE;aBLACK SMALL DIAMOND;cLOZENGE;aWHITE SMALL LOZENGE
aBLACK HORIZONTAL ELLIPSE;aWHITE HORIZONTAL ELLIPSE;aBLACK VERTICAL ELLIPSE
aWHITE VERTICAL ELLIPSE;aLEFT ARROW WITH SMALL CIRCLE;aTHREE LEFTWARDS ARROWS
aLEFT ARROW WITH CIRCLED PLUS;aLONG LEFTWARDS SQUIGGLE ARROW
aLEFTWARDS TWO-HEADED ARROW WITH VERTICAL STROKE;eDOUBLE VERTICAL STROKE;dFROM BAR
cTRIPLE DASH ARROW;bARROW WITH DOTTED STEM;dTAIL WITH VERTICAL STROKE;fDOUBLE VERTICAL STROKE
bTWO-HEADED ARROW WITH TAIL;fWITH VERTICAL STROKE;gDOUBLE VERTICAL STROKE;bARROW THROUGH X
aWAVE ARROW POINTING DIRECTLY LEFT;aEQUALS SIGN ABOVE LEFTWARDS ARROW
aREVERSE TILDE OPERATOR ABOVE LEFTWARDS ARROW;aLEFTWARDS ARROW ABOVE REVERSE ALMOST EQUAL TO
aRIGHTWARDS ARROW THROUGH GREATER-THAN;dSUPERSET;aLEFTWARDS QUADRUPLE ARROW
aRIGHTWARDS QUADRUPLE ARROW;aREVERSE TILDE OPERATOR ABOVE RIGHTWARDS ARROW
aRIGHTWARDS ARROW ABOVE REVERSE ALMOST EQUAL TO;aTILDE OPERATOR ABOVE LEFTWARDS ARROW
aLEFTWARDS ARROW ABOVE ALMOST EQUAL TO;dREVERSE TILDE OPERATOR
aRIGHTWARDS ARROW ABOVE REVERSE TILDE OPERATOR;aDOWNWARDS TRIANGLE-HEADED ZIGZAG ARROW
aSHORT SLANTED NORTH ARROW;bBACKSLANTED SOUTH ARROW;aWHITE MEDIUM STAR;aBLACK SMALL STAR
aWHITE SMALL STAR;aBLACK RIGHT-POINTING PENTAGON;aWHITE RIGHT-POINTING PENTAGON
aHEAVY LARGE CIRCLE;bOVAL WITH OVAL INSIDE;bCIRCLE WITH CIRCLE INSIDE;bCIRCLE;bCIRCLED SALTIRE
aSLANTED NORTH ARROW WITH HOOKED HEAD;aBACKSLANTED SOUTH ARROW WITH HOOKED TAIL
aSLANTED NORTH ARROW WITH HORIZONTAL TAIL;aBACKSLANTED SOUTH ARROW WITH HORIZONTAL TAIL
aBENT ARROW POINTING DOWNWARDS THEN NORTH EAST
aSHORT BENT ARROW POINTING DOWNWARDS THEN NORTH EAST;aLEFTWARDS TRIANGLE-HEADED ARROW
aUPWARDS TRIANGLE-HEADED ARROW;aRIGHTWARDS TRIANGLE-HEADED ARROW;aDOWNWARDS TRIANGLE-HEADED ARROW
aLEFT RIGHT TRIANGLE-HEADED ARROW;aUP DOWN TRIANGLE-HEADED ARROW;aNORTH WEST TRIANGLE-HEADED ARROW
bEAST TRIANGLE-HEADED ARROW;aSOUTH EAST TRIANGLE-HEADED ARROW;bWEST TRIANGLE-HEADED ARROW
aLEFTWARDS TRIANGLE-HEADED DASHED ARROW;aUPWARDS TRIANGLE-HEADED DASHED ARROW
aRIGHTWARDS TRIANGLE-HEADED DASHED ARROW;aDOWNWARDS TRIANGLE-HEADED DASHED ARROW
aCLOCKWISE TRIANGLE-HEADED OPEN CIRCLE ARROW;aANTICLOCKWISE TRIANGLE-HEADED OPEN CIRCLE ARROW
aLEFTWARDS TRIANGLE-HEADED ARROW TO BAR;aUPWARDS TRIANGLE-HEADED ARROW TO BAR
aRIGHTWARDS TRIANGLE-HEADED ARROW TO BAR;aDOWNWARDS TRIANGLE-HEADED ARROW TO BAR;@2B76
aNORTH WEST TRIANGLE-HEADED ARROW TO BAR;bEAST TRIANGLE-HEADED ARROW TO BAR
aSOUTH EAST TRIANGLE-HEADED ARROW TO BAR;bWEST TRIANGLE-HEADED ARROW TO BAR
aLEFTWARDS TRIANGLE-HEADED ARROW WITH DOUBLE HORIZONTAL STROKE
aUPWARDS TRIANGLE-HEADED ARROW WITH DOUBLE HORIZONTAL STROKE
aRIGHTWARDS TRIANGLE-HEADED ARROW WITH DOUBLE HORIZONTAL STROKE
aDOWNWARDS TRIANGLE-HEADED ARROW WITH DOUBLE HORIZONTAL STROKE;aHORIZONTAL TAB KEY
aVERTICAL TAB KEY;aLEFTWARDS TRIANGLE-HEADED ARROW OVER RIGHTWARDS TRIANGLE-HEADED ARROW
aUPWARDS TRIANGLE-HEADED ARROW LEFTWARDS OF DOWNWARDS TRIANGLE-HEADED ARROW
aRIGHTWARDS TRIANGLE-HEADED ARROW OVER LEFTWARDS TRIANGLE-HEADED ARROW
aDOWNWARDS TRIANGLE-HEADED ARROW LEFTWARDS OF UPWARDS TRIANGLE-HEADED ARROW
aLEFTWARDS TRIANGLE-HEADED PAIRED ARROWS;aUPWARDS TRIANGLE-HEADED PAIRED ARROWS
aRIGHTWARDS TRIANGLE-HEADED PAIRED ARROWS;aDOWNWARDS TRIANGLE-HEADED PAIRED ARROWS
aLEFTWARDS BLACK CIRCLED WHITE ARROW;aUPWARDS BLACK CIRCLED WHITE ARROW
aRIGHTWARDS BLACK CIRCLED WHITE ARROW;aDOWNWARDS BLACK CIRCLED WHITE ARROW
aANTICLOCKWISE TRIANGLE-HEADED RIGHT U-SHAPED ARROW;cBOTTOM U-SHAPED ARROW;cLEFT U-SHAPED ARROW
cTOP U-SHAPED ARROW;aRETURN LEFT;bRIGHT;aNEWLINE LEFT;bRIGHT
aFOUR CORNER ARROWS CIRCLING ANTICLOCKWISE;aRIGHTWARDS BLACK ARROW;@2B97
aSYMBOL FOR TYPE A ELECTRONICS;aTHREE-D TOP-LIGHTED LEFTWARDS EQUILATERAL ARROWHEAD
bRIGHT-LIGHTED UPWARDS EQUILATERAL ARROWHEAD;bTOP-LIGHTED RIGHTWARDS EQUILATERAL ARROWHEAD
bLEFT-LIGHTED DOWNWARDS EQUILATERAL ARROWHEAD;aBLACK LEFTWARDS EQUILATERAL ARROWHEAD
bUPWARDS EQUILATERAL ARROWHEAD;bRIGHTWARDS EQUILATERAL ARROWHEAD;bDOWNWARDS EQUILATERAL ARROWHEAD
aDOWNWARDS TRIANGLE-HEADED ARROW WITH LONG TIP LEFTWARDS;gRIGHTWARDS
aUPWARDS TRIANGLE-HEADED ARROW WITH LONG TIP LEFTWARDS;gRIGHTWARDS
aLEFTWARDS TRIANGLE-HEADED ARROW WITH LONG TIP UPWARDS
aRIGHTWARDS TRIANGLE-HEADED ARROW WITH LONG TIP UPWARDS
aLEFTWARDS TRIANGLE-HEADED ARROW WITH LONG TIP DOWNWARDS
aRIGHTWARDS TRIANGLE-HEADED ARROW WITH LONG TIP DOWNWARDS
aBLACK CURVED DOWNWARDS AND LEFTWARDS ARROW;eRIGHTWARDS ARROW;cUPWARDS AND LEFTWARDS ARROW
eRIGHTWARDS ARROW;cLEFTWARDS AND UPWARDS ARROW;cRIGHTWARDS AND UPWARDS ARROW
cLEFTWARDS AND DOWNWARDS ARROW;cRIGHTWARDS AND DOWNWARDS ARROW;aRIBBON ARROW DOWN LEFT;dRIGHT
cUP LEFT;dRIGHT;cLEFT UP;cRIGHT UP;cLEFT DOWN;cRIGHT DOWN
aUPWARDS WHITE ARROW FROM BAR WITH HORIZONTAL BAR;aUP ARROWHEAD IN A RECTANGLE BOX
aOVERLAPPING WHITE SQUARES;cAND BLACK SQUARES;bBLACK SQUARES;aBALLOT BOX WITH LIGHT X;aCIRCLED X
bBOLD X;aBLACK SQUARE CENTRED;bDIAMOND CENTRED;aTURNED BLACK PENTAGON;aHORIZONTAL BLACK OCTAGON
aBLACK OCTAGON;bMEDIUM UP-POINTING TRIANGLE CENTRED;cDOWN-POINTING TRIANGLE CENTRED
cLEFT-POINTING TRIANGLE CENTRED;cRIGHT-POINTING TRIANGLE CENTRED;aNEPTUNE FORM TWO
aTOP HALF BLACK CIRCLE;aBOTTOM HALF BLACK CIRCLE;aLIGHT FOUR POINTED BLACK CUSP
aROTATED LIGHT FOUR POINTED BLACK CUSP;aWHITE FOUR POINTED CUSP;aROTATED WHITE FOUR POINTED CUSP
aSQUARE POSITION INDICATOR;aUNCERTAINTY SIGN;aGROUP MARK;aPLUTO FORM TWO;cTHREE;cFOUR;cFIVE
aTRANSPLUTO;aPROSERPINA;aASTRAEA;aHYGIEA;aPHOLUS;aNESSUS;aWHITE MOON SELENA
aBLACK DIAMOND ON CROSS;aTRUE LIGHT MOON ARTA;aCUPIDO;aHADES;aZEUS;aKRONOS;aAPOLLON;aADMETOS
aVULCANUS;aPOSEIDON;aLEFT HALF BLACK STAR;aRIGHT HALF BLACK STAR;aSTAR WITH LEFT HALF BLACK
cRIGHT HALF BLACK;aLEFTWARDS TWO-HEADED ARROW WITH TRIANGLE ARROWHEADS
aUPWARDS TWO-HEADED ARROW WITH TRIANGLE ARROWHEADS
aRIGHTWARDS TWO-HEADED ARROW WITH TRIANGLE ARROWHEADS
aDOWNWARDS TWO-HEADED ARROW WITH TRIANGLE ARROWHEADS;aERIS FORM ONE;cTWO;aSEDNA
aRUSSIAN ASTROLOGICAL SYMBOL VIGINTILE;dNOVILE;dQUINTILE;dBINOVILE;dSENTAGON;dTREDECILE
aEQUALS SIGN WITH INFINITY BELOW;aUNITED SYMBOL;aSEPARATED SYMBOL;aDOUBLED SYMBOL;aPASSED SYMBOL
aREVERSED RIGHT ANGLE;aHELLSCHREIBER PAUSE SYMBOL;aGLAGOLITIC CAPITAL LETTER AZU;dBUKY;dVEDE
dGLAGOLI;dDOBRO;dYESTU;dZHIVETE;dDZELO;dZEMLJA;dIZHE;dINITIAL IZHE;dI;dDJERVI;dKAKO;dLJUDIJE
dMYSLITE;dNASHI;dONU;dPOKOJI;dRITSI;dSLOVO;dTVRIDO;dUKU;dFRITU;dHERU;dOTU;dPE;dSHTA;dTSI;dCHRIVI
dSHA;dYERU;dYERI;dYATI;dSPIDERY HA;dYU;dSMALL YUS;fWITH TAIL;dYO;dIOTATED SMALL YUS;dBIG YUS
dIOTATED BIG YUS;dFITA;dIZHITSA;dSHTAPIC;dTROKUTASTI A;dLATINATE MYSLITE;dCAUDATE CHRIVI
bSMALL LETTER AZU;dBUKY;dVEDE;dGLAGOLI;dDOBRO;dYESTU;dZHIVETE;dDZELO;dZEMLJA;dIZHE;dINITIAL IZHE
dI;dDJERVI;dKAKO;dLJUDIJE;dMYSLITE;dNASHI;dONU;dPOKOJI;dRITSI;dSLOVO;dTVRIDO;dUKU;dFRITU;dHERU
dOTU;dPE;dSHTA;dTSI;dCHRIVI;dSHA;dYERU;dYERI;dYATI;dSPIDERY HA;dYU;dSMALL YUS;fWITH TAIL;dYO
dIOTATED SMALL YUS;dBIG YUS;dIOTATED BIG YUS;dFITA;dIZHITSA;dSHTAPIC;dTROKUTASTI A
dLATINATE MYSLITE;dCAUDATE CHRIVI;aLATIN CAPITAL LETTER L WITH DOUBLE BAR
bSMALL LETTER L WITH DOUBLE BAR;bCAPITAL LETTER L WITH MIDDLE TILDE;dP WITH STROKE;dR WITH TAIL
bSMALL LETTER A WITH STROKE;dT WITH DIAGONAL STROKE;bCAPITAL LETTER H WITH DESCENDER
bSMALL LETTER H WITH DESCENDER;bCAPITAL LETTER K WITH DESCENDER;bSMALL LETTER K WITH DESCENDER
bCAPITAL LETTER Z WITH DESCENDER;bSMALL LETTER Z WITH DESCENDER;bCAPITAL LETTER ALPHA;dM WITH HOOK
dTURNED A;eALPHA;bSMALL LETTER V WITH RIGHT HOOK;bCAPITAL LETTER W WITH HOOK
bSMALL LETTER W WITH HOOK;dV WITH CURL;bCAPITAL LETTER HALF H;bSMALL LETTER HALF H;dTAILLESS PHI
dE WITH NOTCH;dTURNED R WITH TAIL;dO WITH LOW RING INSIDE;bLETTER SMALL CAPITAL TURNED E
bSUBSCRIPT SMALL LETTER J;aMODIFIER LETTER CAPITAL V;aLATIN CAPITAL LETTER S WITH SWASH TAIL
dZ WITH SWASH TAIL;aCOPTIC CAPITAL LETTER ALFA;bSMALL LETTER ALFA;bCAPITAL LETTER VIDA
bSMALL LETTER VIDA;bCAPITAL LETTER GAMMA;bSMALL LETTER GAMMA;bCAPITAL LETTER DALDA
bSMALL LETTER DALDA;bCAPITAL LETTER EIE;bSMALL LETTER EIE;bCAPITAL LETTER SOU;bSMALL LETTER SOU
bCAPITAL LETTER ZATA;bSMALL LETTER ZATA;bCAPITAL LETTER HATE;bSMALL LETTER HATE
bCAPITAL LETTER THETHE;bSMALL LETTER THETHE;bCAPITAL LETTER IAUDA;bSMALL LETTER IAUDA
bCAPITAL LETTER KAPA;bSMALL LETTER KAPA;bCAPITAL LETTER LAULA;bSMALL LETTER LAULA
bCAPITAL LETTER MI;bSMALL LETTER MI;bCAPITAL LETTER NI;bSMALL LETTER NI;bCAPITAL LETTER KSI
bSMALL LETTER KSI;bCAPITAL LETTER O;bSMALL LETTER O;bCAPITAL LETTER PI;bSMALL LETTER PI
bCAPITAL LETTER RO;bSMALL LETTER RO;bCAPITAL LETTER SIMA;bSMALL LETTER SIMA;bCAPITAL LETTER TAU
bSMALL LETTER TAU;bCAPITAL LETTER UA;bSMALL LETTER UA;bCAPITAL LETTER FI;bSMALL LETTER FI
bCAPITAL LETTER KHI;bSMALL LETTER KHI;bCAPITAL LETTER PSI;bSMALL LETTER PSI;bCAPITAL LETTER OOU
bSMALL LETTER OOU;bCAPITAL LETTER DIALECT-P ALEF;bSMALL LETTER DIALECT-P ALEF
bCAPITAL LETTER OLD COPTIC AIN;bSMALL LETTER OLD COPTIC AIN;bCAPITAL LETTER CRYPTOGRAMMIC EIE
bSMALL LETTER CRYPTOGRAMMIC EIE;bCAPITAL LETTER DIALECT-P KAPA;bSMALL LETTER DIALECT-P KAPA
bCAPITAL LETTER DIALECT-P NI;bSMALL LETTER DIALECT-P NI;bCAPITAL LETTER CRYPTOGRAMMIC NI
bSMALL LETTER CRYPTOGRAMMIC NI;bCAPITAL LETTER OLD COPTIC OOU;bSMALL LETTER OLD COPTIC OOU
bCAPITAL LETTER SAMPI;bSMALL LETTER SAMPI;bCAPITAL LETTER CROSSED SHEI;bSMALL LETTER CROSSED SHEI
bCAPITAL LETTER OLD COPTIC SHEI;bSMALL LETTER OLD COPTIC SHEI;bCAPITAL LETTER OLD COPTIC ESH
bSMALL LETTER OLD COPTIC ESH;bCAPITAL LETTER AKHMIMIC KHEI;bSMALL LETTER AKHMIMIC KHEI
bCAPITAL LETTER DIALECT-P HORI;bSMALL LETTER DIALECT-P HORI;bCAPITAL LETTER OLD COPTIC HORI
bSMALL LETTER OLD COPTIC HORI;bCAPITAL LETTER OLD COPTIC HA;bSMALL LETTER OLD COPTIC HA
bCAPITAL LETTER L-SHAPED HA;bSMALL LETTER L-SHAPED HA;bCAPITAL LETTER OLD COPTIC HEI
bSMALL LETTER OLD COPTIC HEI;bCAPITAL LETTER OLD COPTIC HAT;bSMALL LETTER OLD COPTIC HAT
bCAPITAL LETTER OLD COPTIC GANGIA;bSMALL LETTER OLD COPTIC GANGIA;bCAPITAL LETTER OLD COPTIC DJA
bSMALL LETTER OLD COPTIC DJA;bCAPITAL LETTER OLD COPTIC SHIMA;bSMALL LETTER OLD COPTIC SHIMA
bCAPITAL LETTER OLD NUBIAN SHIMA;bSMALL LETTER OLD NUBIAN SHIMA;bCAPITAL LETTER OLD NUBIAN NGI
bSMALL LETTER OLD NUBIAN NGI;bCAPITAL LETTER OLD NUBIAN NYI;bSMALL LETTER OLD NUBIAN NYI
bCAPITAL LETTER OLD NUBIAN WAU;bSMALL LETTER OLD NUBIAN WAU;bSYMBOL KAI;cMI RO;cPI RO;cSTAUROS
cTAU RO;cKHI RO;cSHIMA SIMA;bCAPITAL LETTER CRYPTOGRAMMIC SHEI;bSMALL LETTER CRYPTOGRAMMIC SHEI
bCAPITAL LETTER CRYPTOGRAMMIC GANGIA;bSMALL LETTER CRYPTOGRAMMIC GANGIA;bCOMBINING NI ABOVE
cSPIRITUS ASPER;dLENIS;bCAPITAL LETTER BOHAIRIC KHEI;bSMALL LETTER BOHAIRIC KHEI;@2CF9
bOLD NUBIAN FULL STOP;dDIRECT QUESTION MARK;dINDIRECT QUESTION MARK;dVERSE DIVIDER
bFRACTION ONE HALF;bFULL STOP;bMORPHOLOGICAL DIVIDER;aGEORGIAN SMALL LETTER AN;dBAN;dGAN;dDON;dEN
dVIN;dZEN;dTAN;dIN;dKAN;dLAS;dMAN;dNAR;dON;dPAR;dZHAR;dRAE;dSAN;dTAR;dUN;dPHAR;dKHAR;dGHAN;dQAR
dSHIN;dCHIN;dCAN;dJIL;dCIL;dCHAR;dXAN;dJHAN;dHAE;dHE;dHIE;dWE;dHAR;dHOE;@2D27;dYN;@2D2D;dAEN;@2D30
aTIFINAGH LETTER YA;cYAB;cYABH;cYAG;cYAGHH;cBERBER ACADEMY YAJ;cYAJ;cYAD;cYADH;cYADD;cYADDH;cYEY
cYAF;cYAK;cTUAREG YAK;cYAKHH;cYAH;cBERBER ACADEMY YAH;cTUAREG YAH;cYAHH;cYAA;cYAKH;cTUAREG YAKH
cYAQ;cTUAREG YAQ;cYI;cYAZH;cAHAGGAR YAZH;cTUAREG YAZH;cYAL;cYAM;cYAN;cTUAREG YAGN;dYANG;cYAP;cYU
cYAR;cYARR;cYAGH;cTUAREG YAGH;cAYER YAGH;cYAS;cYASS;cYASH;cYAT;cYATH;cYACH;cYATT;cYAV;cYAW;cYAY
cYAZ;cTAWELLEMET YAZ;cYAZZ;cYE;cYO;@2D6F;bMODIFIER LETTER LABIALIZATION MARK;bSEPARATOR MARK;@2D7F
bCONSONANT JOINER;aETHIOPIC SYLLABLE LOA;cMOA;cROA;cSOA;cSHOA;cBOA;cTOA;cCOA;cNOA;cNYOA
cGLOTTAL OA;cZOA;cDOA;cDDOA;cJOA;cTHOA;cCHOA;cPHOA;cPOA;cGGWA;cGGWI;cGGWEE;cGGWE;@2DA0;cSSA;cSSU
cSSI;cSSAA;cSSEE;cSSE;cSSO;@2DA8;cCCA;cCCU;cCCI;cCCAA;cCCEE;cCCE;cCCO;@2DB0;cZZA;cZZU;cZZI;cZZAA
cZZEE;cZZE;cZZO;@2DB8;cCCHA;cCCHU;cCCHI;cCCHAA;cCCHEE;cCCHE;cCCHO;@2DC0;cQYA;cQYU;cQYI;cQYAA;cQYEE
cQYE;cQYO;@2DC8;cKYA;cKYU;cKYI;cKYAA;cKYEE;cKYE;cKYO;@2DD0;cXYA;cXYU;cXYI;cXYAA;cXYEE;cXYE;cXYO
@2DD8;cGYA;cGYU;cGYI;cGYAA;cGYEE;cGYE;cGYO;@2DE0;aCOMBINING CYRILLIC LETTER BE;dVE;dGHE;dDE;dZHE
dZE;dKA;dEL;dEM;dEN;dO;dPE;dER;dES;dTE;dHA;dTSE;dCHE;dSHA;dSHCHA;dFITA;dES-TE;dA;dIE;dDJERV
dMONOGRAPH UK;dYAT;dYU;dIOTIFIED A;dLITTLE YUS;dBIG YUS;dIOTIFIED BIG YUS
aRIGHT ANGLE SUBSTITUTION MARKER;cDOTTED SUBSTITUTION MARKER;aLEFT SUBSTITUTION BRACKET
aRIGHT SUBSTITUTION BRACKET;aLEFT DOTTED SUBSTITUTION BRACKET;aRIGHT DOTTED SUBSTITUTION BRACKET
aRAISED INTERPOLATION MARKER;bDOTTED INTERPOLATION MARKER;aDOTTED TRANSPOSITION MARKER
aLEFT TRANSPOSITION BRACKET;aRIGHT TRANSPOSITION BRACKET;aRAISED SQUARE
aLEFT RAISED OMISSION BRACKET;aRIGHT RAISED OMISSION BRACKET;aEDITORIAL CORONIS;aPARAGRAPHOS
aFORKED PARAGRAPHOS;aREVERSED FORKED PARAGRAPHOS;aHYPODIASTOLE;aDOTTED OBELOS;aDOWNWARDS ANCORA
aUPWARDS ANCORA;aDOTTED RIGHT-POINTING ANGLE;aDOUBLE OBLIQUE HYPHEN;aINVERTED INTERROBANG
aPALM BRANCH;aHYPHEN WITH DIAERESIS;aTILDE WITH RING ABOVE;aLEFT LOW PARAPHRASE BRACKET
aRIGHT LOW PARAPHRASE BRACKET;aTILDE WITH DOT ABOVE;dBELOW;aLEFT VERTICAL BAR WITH QUILL
aRIGHT VERTICAL BAR WITH QUILL;aTOP LEFT HALF BRACKET;bRIGHT HALF BRACKET
aBOTTOM LEFT HALF BRACKET;bRIGHT HALF BRACKET;aLEFT SIDEWAYS U BRACKET;aRIGHT SIDEWAYS U BRACKET
aLEFT DOUBLE PARENTHESIS;aRIGHT DOUBLE PARENTHESIS;aTWO DOTS OVER ONE DOT PUNCTUATION
aONE DOT OVER TWO DOTS PUNCTUATION;aSQUARED FOUR DOT PUNCTUATION;aFIVE DOT MARK
aREVERSED QUESTION MARK;aVERTICAL TILDE;aRING POINT;aWORD SEPARATOR MIDDLE DOT;aTURNED COMMA
aRAISED DOT;bCOMMA;aTURNED SEMICOLON;aDAGGER WITH LEFT GUARD;cRIGHT GUARD;aTURNED DAGGER
aTOP HALF SECTION SIGN;aTWO-EM DASH;aTHREE-EM DASH;aSTENOGRAPHIC FULL STOP;aVERTICAL SIX DOTS
aWIGGLY VERTICAL LINE;aCAPITULUM;aDOUBLE HYPHEN;aREVERSED COMMA
aDOUBLE LOW-REVERSED-9 QUOTATION MARK;aDASH WITH LEFT UPTURN;aDOUBLE SUSPENSION MARK
aINVERTED LOW KAVYKA;dWITH KAVYKA ABOVE;aLOW KAVYKA;cWITH DOT;aDOUBLE STACKED COMMA
aDOTTED SOLIDUS;aTRIPLE DAGGER;aMEDIEVAL COMMA;aPARAGRAPHUS MARK;aPUNCTUS ELEVATUS MARK
aCORNISH VERSE DIVIDER;aCROSS PATTY WITH RIGHT CROSSBAR;dLEFT CROSSBAR;aTIRONIAN SIGN CAPITAL ET
aMEDIEVAL EXCLAMATION MARK;bQUESTION MARK;aLEFT SQUARE BRACKET WITH STROKE
aRIGHT SQUARE BRACKET WITH STROKE;aLEFT SQUARE BRACKET WITH DOUBLE STROKE
aRIGHT SQUARE BRACKET WITH DOUBLE STROKE;aTOP HALF LEFT PARENTHESIS;cRIGHT PARENTHESIS
aBOTTOM HALF LEFT PARENTHESIS;cRIGHT PARENTHESIS;aOBLIQUE HYPHEN;@2E80;aCJK RADICAL REPEAT;cCLIFF
cSECOND ONE;dTWO;dTHREE;cPERSON;cBOX;cTABLE;cKNIFE ONE;dTWO;cDIVINATION;cSEAL;cSMALL ONE;dTWO
cLAME ONE;dTWO;dTHREE;dFOUR;cSNAKE;cTHREAD;cSNOUT ONE;dTWO;cHEART ONE;dTWO;cHAND;cRAP;@2E9B;cCHOKE
cSUN;cMOON;cDEATH;cMOTHER;cCIVILIAN;cWATER ONE;dTWO;cFIRE;cPAW ONE;dTWO
cSIMPLIFIED HALF TREE TRUNK;cCOW;cDOG;cJADE;cBOLT OF CLOTH;cEYE;cSPIRIT ONE;dTWO;cBAMBOO;cSILK
cC-SIMPLIFIED SILK;cNET ONE;dTWO;dTHREE;dFOUR;cMESH;cSHEEP;cRAM;cEWE;cOLD;cBRUSH ONE;dTWO;cMEAT
cMORTAR;cGRASS ONE;dTWO;dTHREE;cTIGER;cCLOTHES;cWEST ONE;dTWO;cC-SIMPLIFIED SEE;cSIMPLIFIED HORN
cHORN;cC-SIMPLIFIED SPEECH;dSHELL;cFOOT;cC-SIMPLIFIED CART;cSIMPLIFIED WALK;cWALK ONE;dTWO;cCITY
cC-SIMPLIFIED GOLD;cLONG ONE;dTWO;cC-SIMPLIFIED LONG;dGATE;cMOUND ONE;dTWO;cRAIN;cBLUE
cC-SIMPLIFIED TANNED LEATHER;dLEAF;dWIND;dFLY;cEAT ONE;dTWO;dTHREE;cC-SIMPLIFIED EAT;cHEAD
cC-SIMPLIFIED HORSE;cBONE;cGHOST;cC-SIMPLIFIED FISH;dBIRD;dSALT;cSIMPLIFIED WHEAT;dYELLOW
cC-SIMPLIFIED FROG;cJ-SIMPLIFIED EVEN;cC-SIMPLIFIED EVEN;cJ-SIMPLIFIED TOOTH;cC-SIMPLIFIED TOOTH
cJ-SIMPLIFIED DRAGON;cC-SIMPLIFIED DRAGON;cTURTLE;cJ-SIMPLIFIED TURTLE;cC-SIMPLIFIED TURTLE;@2F00
aKANGXI RADICAL ONE;cLINE;cDOT;cSLASH;cSECOND;cHOOK;cTWO;cLID;cMAN;cLEGS;cENTER;cEIGHT;cDOWN BOX
cCOVER;cICE;cTABLE;cOPEN BOX;cKNIFE;cPOWER;cWRAP;cSPOON;cRIGHT OPEN BOX;cHIDING ENCLOSURE;cTEN
cDIVINATION;cSEAL;cCLIFF;cPRIVATE;cAGAIN;cMOUTH;cENCLOSURE;cEARTH;cSCHOLAR;cGO;dSLOWLY;cEVENING
cBIG;cWOMAN;cCHILD;cROOF;cINCH;cSMALL;cLAME;cCORPSE;cSPROUT;cMOUNTAIN;cRIVER;cWORK;cONESELF
cTURBAN;cDRY;cSHORT THREAD;cDOTTED CLIFF;cLONG STRIDE;cTWO HANDS;cSHOOT;cBOW;cSNOUT;cBRISTLE;cSTEP
cHEART;cHALBERD;cDOOR;cHAND;cBRANCH;cRAP;cSCRIPT;cDIPPER;cAXE;cSQUARE;cNOT;cSUN;cSAY;cMOON;cTREE
cLACK;cSTOP;cDEATH;cWEAPON;cDO NOT;cCOMPARE;cFUR;cCLAN;cSTEAM;cWATER;cFIRE;cCLAW;cFATHER;cDOUBLE X
cHALF TREE TRUNK;cSLICE;cFANG;cCOW;cDOG;cPROFOUND;cJADE;cMELON;cTILE;cSWEET;cLIFE;cUSE;cFIELD
cBOLT OF CLOTH;cSICKNESS;cDOTTED TENT;cWHITE;cSKIN;cDISH;cEYE;cSPEAR;cARROW;cSTONE;cSPIRIT;cTRACK
cGRAIN;cCAVE;cSTAND;cBAMBOO;cRICE;cSILK;cJAR;cNET;cSHEEP;cFEATHER;cOLD;cAND;cPLOW;cEAR;cBRUSH
cMEAT;cMINISTER;cSELF;cARRIVE;cMORTAR;cTONGUE;cOPPOSE;cBOAT;cSTOPPING;cCOLOR;cGRASS;cTIGER;cINSECT
cBLOOD;cWALK ENCLOSURE;cCLOTHES;cWEST;cSEE;cHORN;cSPEECH;cVALLEY;cBEAN;cPIG;cBADGER;cSHELL;cRED
cRUN;cFOOT;cBODY;cCART;cBITTER;cMORNING;cWALK;cCITY;cWINE;cDISTINGUISH;cVILLAGE;cGOLD;cLONG;cGATE
cMOUND;cSLAVE;cSHORT TAILED BIRD;cRAIN;cBLUE;cWRONG;cFACE;cLEATHER;cTANNED LEATHER;cLEEK;cSOUND
cLEAF;cWIND;cFLY;cEAT;cHEAD;cFRAGRANT;cHORSE;cBONE;cTALL;cHAIR;cFIGHT;cSACRIFICIAL WINE;cCAULDRON
cGHOST;cFISH;cBIRD;cSALT;cDEER;cWHEAT;cHEMP;cYELLOW;cMILLET;cBLACK;cEMBROIDERY;cFROG;cTRIPOD;cDRUM
cRAT;cNOSE;cEVEN;cTOOTH;cDRAGON;cTURTLE;cFLUTE;@2FF0
aIDEOGRAPHIC DESCRIPTION CHARACTER LEFT TO RIGHT;dABOVE TO BELOW;dLEFT TO MIDDLE AND RIGHT
dABOVE TO MIDDLE AND BELOW;dFULL SURROUND;dSURROUND FROM ABOVE;fBELOW;fLEFT;fUPPER LEFT;gRIGHT
fLOWER LEFT;dOVERLAID;@3000;bSPACE;bCOMMA;bFULL STOP;aDITTO MARK
aJAPANESE INDUSTRIAL STANDARD SYMBOL;aIDEOGRAPHIC ITERATION MARK;bCLOSING MARK;bNUMBER ZERO
aLEFT ANGLE BRACKET;aRIGHT ANGLE BRACKET;aLEFT DOUBLE ANGLE BRACKET;aRIGHT DOUBLE ANGLE BRACKET
aLEFT CORNER BRACKET;aRIGHT CORNER BRACKET;aLEFT WHITE CORNER BRACKET;aRIGHT WHITE CORNER BRACKET
aLEFT BLACK LENTICULAR BRACKET;aRIGHT BLACK LENTICULAR BRACKET;aPOSTAL MARK;aGETA MARK
aLEFT TORTOISE SHELL BRACKET;aRIGHT TORTOISE SHELL BRACKET;aLEFT WHITE LENTICULAR BRACKET
aRIGHT WHITE LENTICULAR BRACKET;aLEFT WHITE TORTOISE SHELL BRACKET
aRIGHT WHITE TORTOISE SHELL BRACKET;aLEFT WHITE SQUARE BRACKET;aRIGHT WHITE SQUARE BRACKET
aWAVE DASH;aREVERSED DOUBLE PRIME QUOTATION MARK;aDOUBLE PRIME QUOTATION MARK
aLOW DOUBLE PRIME QUOTATION MARK;aPOSTAL MARK FACE;aHANGZHOU NUMERAL ONE;cTWO;cTHREE;cFOUR;cFIVE
cSIX;cSEVEN;cEIGHT;cNINE;aIDEOGRAPHIC LEVEL TONE MARK;bRISING TONE MARK;bDEPARTING TONE MARK
bENTERING TONE MARK;aHANGUL SINGLE DOT TONE MARK;bDOUBLE DOT TONE MARK;aWAVY DASH
aVERTICAL KANA REPEAT MARK;dWITH VOICED SOUND MARK;dMARK UPPER HALF
dWITH VOICED SOUND MARK UPPER HALF;dMARK LOWER HALF;aCIRCLED POSTAL MARK
aIDEOGRAPHIC TELEGRAPH LINE FEED SEPARATOR SYMBOL;aHANGZHOU NUMERAL TEN;cTWENTY;cTHIRTY
aVERTICAL IDEOGRAPHIC ITERATION MARK;aMASU MARK;aPART ALTERNATION MARK
aIDEOGRAPHIC VARIATION INDICATOR;bHALF FILL SPACE;@3041;aHIRAGANA LETTER SMALL A;cA;cSMALL I;cI
cSMALL U;cU;cSMALL E;cE;cSMALL O;cO;cKA;cGA;cKI;cGI;cKU;cGU;cKE;cGE;cKO;cGO;cSA;cZA;cSI;cZI;cSU
cZU;cSE;cZE;cSO;cZO;cTA;cDA;cTI;cDI;cSMALL TU;cTU;cDU;cTE;cDE;cTO;cDO;cNA;cNI;cNU;cNE;cNO;cHA;cBA
cPA;cHI;cBI;cPI;cHU;cBU;cPU;cHE;cBE;cPE;cHO;cBO;cPO;cMA;cMI;cMU;cME;cMO;cSMALL YA;cYA;cSMALL YU
cYU;cSMALL YO;cYO;cRA;cRI;cRU;cRE;cRO;cSMALL WA;cWA;cWI;cWE;cWO;cN;cVU;cSMALL KA;dKE;@3099
aCOMBINING KATAKANA-HIRAGANA VOICED SOUND MARK;cSEMI-VOICED SOUND MARK
aKATAKANA-HIRAGANA VOICED SOUND MARK;bSEMI-VOICED SOUND MARK;aHIRAGANA ITERATION MARK
bVOICED ITERATION MARK;bDIGRAPH YORI;aKATAKANA-HIRAGANA DOUBLE HYPHEN;aKATAKANA LETTER SMALL A;cA
cSMALL I;cI;cSMALL U;cU;cSMALL E;cE;cSMALL O;cO;cKA;cGA;cKI;cGI;cKU;cGU;cKE;cGE;cKO;cGO;cSA;cZA
cSI;cZI;cSU;cZU;cSE;cZE;cSO;cZO;cTA;cDA;cTI;cDI;cSMALL TU;cTU;cDU;cTE;cDE;cTO;cDO;cNA;cNI;cNU;cNE
cNO;cHA;cBA;cPA;cHI;cBI;cPI;cHU;cBU;cPU;cHE;cBE;cPE;cHO;cBO;cPO;cMA;cMI;cMU;cME;cMO;cSMALL YA;cYA
cSMALL YU;cYU;cSMALL YO;cYO;cRA;cRI;cRU;cRE;cRO;cSMALL WA;cWA;cWI;cWE;cWO;cN;cVU;cSMALL KA;dKE;cVA
cVI;cVE;cVO;bMIDDLE DOT;aKATAKANA-HIRAGANA PROLONGED SOUND MARK;aKATAKANA ITERATION MARK
bVOICED ITERATION MARK;bDIGRAPH KOTO;@3105;aBOPOMOFO LETTER B;cP;cM;cF;cD;cT;cN;cL;cG;cK;cH;cJ;cQ
cX;cZH;cCH;cSH;cR;cZ;cC;cS;cA;cO;cE;cEH;cAI;cEI;cAU;cOU;cAN;cEN;cANG;cENG;cER;cI;cU;cIU;cV;cNG;cGN
cIH;cO WITH DOT ABOVE;cNN;@3131;aHANGUL LETTER KIYEOK;cSSANGKIYEOK;cKIYEOK-SIOS;cNIEUN
cNIEUN-CIEUC;cNIEUN-HIEUH;cTIKEUT;cSSANGTIKEUT;cRIEUL;cRIEUL-KIYEOK;cRIEUL-MIEUM;cRIEUL-PIEUP
cRIEUL-SIOS;cRIEUL-THIEUTH;cRIEUL-PHIEUPH;cRIEUL-HIEUH;cMIEUM;cPIEUP;cSSANGPIEUP;cPIEUP-SIOS;cSIOS
cSSANGSIOS;cIEUNG;cCIEUC;cSSANGCIEUC;cCHIEUCH;cKHIEUKH;cTHIEUTH;cPHIEUPH;cHIEUH;cA;cAE;cYA;cYAE
cEO;cE;cYEO;cYE;cO;cWA;cWAE;cOE;cYO;cU;cWEO;cWE;cWI;cYU;cEU;cYI;cI;bFILLER;bLETTER SSANGNIEUN
cNIEUN-TIKEUT;cNIEUN-SIOS;cNIEUN-PANSIOS;cRIEUL-KIYEOK-SIOS;cRIEUL-TIKEUT;cRIEUL-PIEUP-SIOS
cRIEUL-PANSIOS;cRIEUL-YEORINHIEUH;cMIEUM-PIEUP;cMIEUM-SIOS;cMIEUM-PANSIOS;cKAPYEOUNMIEUM
cPIEUP-KIYEOK;cPIEUP-TIKEUT;cPIEUP-SIOS-KIYEOK;cPIEUP-SIOS-TIKEUT;cPIEUP-CIEUC;cPIEUP-THIEUTH
cKAPYEOUNPIEUP;cKAPYEOUNSSANGPIEUP;cSIOS-KIYEOK;cSIOS-NIEUN;cSIOS-TIKEUT;cSIOS-PIEUP;cSIOS-CIEUC
cPANSIOS;cSSANGIEUNG;cYESIEUNG;cYESIEUNG-SIOS;cYESIEUNG-PANSIOS;cKAPYEOUNPHIEUPH;cSSANGHIEUH
cYEORINHIEUH;cYO-YA;cYO-YAE;cYO-I;cYU-YEO;cYU-YE;cYU-I;cARAEA;cARAEAE;@3190
aIDEOGRAPHIC ANNOTATION LINKING MARK;cREVERSE MARK;cONE MARK;cTWO MARK;cTHREE MARK;cFOUR MARK
cTOP MARK;cMIDDLE MARK;cBOTTOM MARK;cFIRST MARK;cSECOND MARK;cTHIRD MARK;cFOURTH MARK;cHEAVEN MARK
cEARTH MARK;cMAN MARK;aBOPOMOFO LETTER BU;cZI;cJI;cGU;cEE;cENN;cOO;cONN;cIR;cANN;cINN;cUNN;cIM
cNGG;cAINN;cAUNN;cAM;cOM;cONG;cINNN;bFINAL LETTER P;dT;dK;dH;bLETTER GH;cLH;cZY;bFINAL LETTER G
bLETTER GW;cKW;cOE;cAH;aCJK STROKE T;cWG;cXG;cBXG;cSW;cHZZ;cHZG;cHP;cHZWG;cSZWG;cHZT;cHZZP;cHPWG
cHZW;cHZZZ;cN;cH;cS;cP;cSP;cD;cHZ;cHG;cSZ;cSWZ;cST;cSG;cPD;cPZ;cTN;cSZZ;cSWG;cHXWG;cHZZZG;cPG;cQ
@31F0;aKATAKANA LETTER SMALL KU;dSI;dSU;dTO;dNU;dHA;dHI;dHU;dHE;dHO;dMU;dRA;dRI;dRU;dRE;dRO
aPARENTHESIZED HANGUL KIYEOK;cNIEUN;cTIKEUT;cRIEUL;cMIEUM;cPIEUP;cSIOS;cIEUNG;cCIEUC;cCHIEUCH
cKHIEUKH;cTHIEUTH;cPHIEUPH;cHIEUH;cKIYEOK A;cNIEUN A;cTIKEUT A;cRIEUL A;cMIEUM A;cPIEUP A;cSIOS A
cIEUNG A;cCIEUC A;cCHIEUCH A;cKHIEUKH A;cTHIEUTH A;cPHIEUPH A;cHIEUH A;cCIEUC U
bKOREAN CHARACTER OJEON;dO HU;@3220;bIDEOGRAPH ONE;cTWO;cTHREE;cFOUR;cFIVE;cSIX;cSEVEN;cEIGHT
cNINE;cTEN;cMOON;cFIRE;cWATER;cWOOD;cMETAL;cEARTH;cSUN;cSTOCK;cHAVE;cSOCIETY;cNAME;cSPECIAL
cFINANCIAL;cCONGRATULATION;cLABOR;cREPRESENT;cCALL;cSTUDY;cSUPERVISE;cENTERPRISE;cRESOURCE
cALLIANCE;cFESTIVAL;cREST;cSELF;cREACH;aCIRCLED IDEOGRAPH QUESTION;cKINDERGARTEN;cSCHOOL;cKOTO
bNUMBER TEN ON BLACK SQUARE;cTWENTY ON BLACK SQUARE;cTHIRTY ON BLACK SQUARE;cFORTY ON BLACK SQUARE
cFIFTY ON BLACK SQUARE;cSIXTY ON BLACK SQUARE;cSEVENTY ON BLACK SQUARE;cEIGHTY ON BLACK SQUARE
aPARTNERSHIP SIGN;aCIRCLED NUMBER TWENTY ONE;dTWO;dTHREE;dFOUR;dFIVE;dSIX;dSEVEN;dEIGHT;dNINE
cTHIRTY;dONE;dTWO;dTHREE;dFOUR;dFIVE;bHANGUL KIYEOK;cNIEUN;cTIKEUT;cRIEUL;cMIEUM;cPIEUP;cSIOS
cIEUNG;cCIEUC;cCHIEUCH;cKHIEUKH;cTHIEUTH;cPHIEUPH;cHIEUH;cKIYEOK A;cNIEUN A;cTIKEUT A;cRIEUL A
cMIEUM A;cPIEUP A;cSIOS A;cIEUNG A;cCIEUC A;cCHIEUCH A;cKHIEUKH A;cTHIEUTH A;cPHIEUPH A;cHIEUH A
bKOREAN CHARACTER CHAMKO;dJUEUI;bHANGUL IEUNG U;aKOREAN STANDARD SYMBOL;aCIRCLED IDEOGRAPH ONE
cTWO;cTHREE;cFOUR;cFIVE;cSIX;cSEVEN;cEIGHT;cNINE;cTEN;cMOON;cFIRE;cWATER;cWOOD;cMETAL;cEARTH;cSUN
cSTOCK;cHAVE;cSOCIETY;cNAME;cSPECIAL;cFINANCIAL;cCONGRATULATION;cLABOR;cSECRET;cMALE;cFEMALE
cSUITABLE;cEXCELLENT;cPRINT;cATTENTION;cITEM;cREST;cCOPY;cCORRECT;cHIGH;cCENTRE;cLOW;cLEFT;cRIGHT
cMEDICINE;cRELIGION;cSTUDY;cSUPERVISE;cENTERPRISE;cRESOURCE;cALLIANCE;cNIGHT;bNUMBER THIRTY SIX
dSEVEN;dEIGHT;dNINE;cFORTY;dONE;dTWO;dTHREE;dFOUR;dFIVE;dSIX;dSEVEN;dEIGHT;dNINE;cFIFTY
aIDEOGRAPHIC TELEGRAPH SYMBOL FOR JANUARY;eFEBRUARY;eMARCH;eAPRIL;eMAY;eJUNE;eJULY;eAUGUST
eSEPTEMBER;eOCTOBER;eNOVEMBER;eDECEMBER;aSQUARE HG;bERG;bEV;aLIMITED LIABILITY SIGN
aCIRCLED KATAKANA A;cI;cU;cE;cO;cKA;cKI;cKU;cKE;cKO;cSA;cSI;cSU;cSE;cSO;cTA;cTI;cTU;cTE;cTO;cNA
cNI;cNU;cNE;cNO;cHA;cHI;cHU;cHE;cHO;cMA;cMI;cMU;cME;cMO;cYA;cYU;cYO;cRA;cRI;cRU;cRE;cRO;cWA;cWI
cWE;cWO;aSQUARE ERA NAME REIWA;bAPAATO;bARUHUA;bANPEA;bAARU;bININGU;bINTI;bUON;bESUKUUDO;bEEKAA
bONSU;bOOMU;bKAIRI;bKARATTO;bKARORII;bGARON;bGANMA;bGIGA;bGINII;bKYURII;bGIRUDAA;bKIRO;bKIROGURAMU
bKIROMEETORU;bKIROWATTO;bGURAMU;bGURAMUTON;bKURUZEIRO;bKUROONE;bKEESU;bKORUNA;bKOOPO;bSAIKURU
bSANTIIMU;bSIRINGU;bSENTI;bSENTO;bDAASU;bDESI;bDORU;bTON;bNANO;bNOTTO;bHAITU;bPAASENTO;bPAATU
bBAARERU;bPIASUTORU;bPIKURU;bPIKO;bBIRU;bHUARADDO;bHUIITO;bBUSSYERU;bHURAN;bHEKUTAARU;bPESO
bPENIHI;bHERUTU;bPENSU;bPEEZI;bBEETA;bPOINTO;bBORUTO;bHON;bPONDO;bHOORU;bHOON;bMAIKURO;bMAIRU
bMAHHA;bMARUKU;bMANSYON;bMIKURON;bMIRI;bMIRIBAARU;bMEGA;bMEGATON;bMEETORU;bYAADO;bYAARU;bYUAN
bRITTORU;bRIRA;bRUPII;bRUUBURU;bREMU;bRENTOGEN;bWATTO;aIDEOGRAPHIC TELEGRAPH SYMBOL FOR HOUR ZERO
fONE;fTWO;fTHREE;fFOUR;fFIVE;fSIX;fSEVEN;fEIGHT;fNINE;fTEN;fELEVEN;fTWELVE;fTHIRTEEN;fFOURTEEN
fFIFTEEN;fSIXTEEN;fSEVENTEEN;fEIGHTEEN;fNINETEEN;fTWENTY;fTWENTY-ONE;fTWENTY-TWO;fTWENTY-THREE
fTWENTY-FOUR;aSQUARE HPA;bDA;bAU;bBAR;bOV;bPC;bDM;cSQUARED;cCUBED;bIU;bERA NAME HEISEI;dSYOUWA
dTAISYOU;dMEIZI;bCORPORATION;bPA AMPS;bNA;bMU A;bMA;bKA;bKB;bMB;bGB;bCAL;bKCAL;bPF;bNF;bMU F;cG
bMG;bKG;bHZ;bKHZ;bMHZ;bGHZ;bTHZ;bMU L;bML;bDL;bKL;bFM;bNM;bMU M;bMM;bCM;bKM;bMM SQUARED
bCM SQUARED;bM SQUARED;bKM SQUARED;bMM CUBED;bCM CUBED;bM CUBED;bKM CUBED;bM OVER S;eSQUARED;bPA
bKPA;bMPA;bGPA;bRAD;cOVER S;eSQUARED;bPS;bNS;bMU S;bMS;bPV;bNV;bMU V;bMV;bKV;bMV MEGA;bPW;bNW
bMU W;bMW;bKW;bMW MEGA;bK OHM;bM OHM;bAM;bBQ;bCC;bCD;bC OVER KG;bCO;bDB;bGY;bHA;bHP;bIN;bKK
bKM CAPITAL;bKT;bLM;bLN;bLOG;bLX;bMB SMALL;bMIL;bMOL;bPH;bPM;bPPM;bPR;bSR;bSV;bWB;bV OVER M
bA OVER M;aIDEOGRAPHIC TELEGRAPH SYMBOL FOR DAY ONE;fTWO;fTHREE;fFOUR;fFIVE;fSIX;fSEVEN;fEIGHT
fNINE;fTEN;fELEVEN;fTWELVE;fTHIRTEEN;fFOURTEEN;fFIFTEEN;fSIXTEEN;fSEVENTEEN;fEIGHTEEN;fNINETEEN
fTWENTY;fTWENTY-ONE;fTWENTY-TWO;fTWENTY-THREE;fTWENTY-FOUR;fTWENTY-FIVE;fTWENTY-SIX;fTWENTY-SEVEN
fTWENTY-EIGHT;fTWENTY-NINE;fTHIRTY;fTHIRTY-ONE;aSQUARE GAL;@4DC0;aHEXAGRAM FOR THE CREATIVE HEAVEN
dRECEPTIVE EARTH;cDIFFICULTY AT THE BEGINNING;cYOUTHFUL FOLLY;cWAITING;cCONFLICT;cTHE ARMY
cHOLDING TOGETHER;cSMALL TAMING;cTREADING;cPEACE;cSTANDSTILL;cFELLOWSHIP;cGREAT POSSESSION
cMODESTY;cENTHUSIASM;cFOLLOWING;cWORK ON THE DECAYED;cAPPROACH;cCONTEMPLATION;cBITING THROUGH
cGRACE;cSPLITTING APART;cRETURN;cINNOCENCE;cGREAT TAMING;cMOUTH CORNERS;cGREAT PREPONDERANCE
cTHE ABYSMAL WATER;dCLINGING FIRE;cINFLUENCE;cDURATION;cRETREAT;cGREAT POWER;cPROGRESS
cDARKENING OF THE LIGHT;cTHE FAMILY;cOPPOSITION;cOBSTRUCTION;cDELIVERANCE;cDECREASE;cINCREASE
cBREAKTHROUGH;cCOMING TO MEET;cGATHERING TOGETHER;cPUSHING UPWARD;cOPPRESSION;cTHE WELL
cREVOLUTION;cTHE CAULDRON;dAROUSING THUNDER;dKEEPING STILL MOUNTAIN;cDEVELOPMENT
cTHE MARRYING MAIDEN;cABUNDANCE;cTHE WANDERER;dGENTLE WIND;dJOYOUS LAKE;cDISPERSION;cLIMITATION
cINNER TRUTH;cSMALL PREPONDERANCE;cAFTER COMPLETION;cBEFORE COMPLETION;@A000;aYI SYLLABLE IT;cIX
cI;cIP;cIET;cIEX;cIE;cIEP;cAT;cAX;cA;cAP;cUOX;cUO;cUOP;cOT;cOX;cO;cOP;cEX;cE;cWU;cBIT;cBIX;cBI
cBIP;cBIET;cBIEX;cBIE;cBIEP;cBAT;cBAX;cBA;cBAP;cBUOX;cBUO;cBUOP;cBOT;cBOX;cBO;cBOP;cBEX;cBE;cBEP
cBUT;cBUX;cBU;cBUP;cBURX;cBUR;cBYT;cBYX;cBY;cBYP;cBYRX;cBYR;cPIT;cPIX;cPI;cPIP;cPIEX;cPIE;cPIEP
cPAT;cPAX;cPA;cPAP;cPUOX;cPUO;cPUOP;cPOT;cPOX;cPO;cPOP;cPUT;cPUX;cPU;cPUP;cPURX;cPUR;cPYT;cPYX;cPY
cPYP;cPYRX;cPYR;cBBIT;cBBIX;cBBI;cBBIP;cBBIET;cBBIEX;cBBIE;cBBIEP;cBBAT;cBBAX;cBBA;cBBAP;cBBUOX
cBBUO;cBBUOP;cBBOT;cBBOX;cBBO;cBBOP;cBBEX;cBBE;cBBEP;cBBUT;cBBUX;cBBU;cBBUP;cBBURX;cBBUR;cBBYT
cBBYX;cBBY;cBBYP;cNBIT;cNBIX;cNBI;cNBIP;cNBIEX;cNBIE;cNBIEP;cNBAT;cNBAX;cNBA;cNBAP;cNBOT;cNBOX
cNBO;cNBOP;cNBUT;cNBUX;cNBU;cNBUP;cNBURX;cNBUR;cNBYT;cNBYX;cNBY;cNBYP;cNBYRX;cNBYR;cHMIT;cHMIX
cHMI;cHMIP;cHMIEX;cHMIE;cHMIEP;cHMAT;cHMAX;cHMA;cHMAP;cHMUOX;cHMUO;cHMUOP;cHMOT;cHMOX;cHMO;cHMOP
cHMUT;cHMUX;cHMU;cHMUP;cHMURX;cHMUR;cHMYX;cHMY;cHMYP;cHMYRX;cHMYR;cMIT;cMIX;cMI;cMIP;cMIEX;cMIE
cMIEP;cMAT;cMAX;cMA;cMAP;cMUOT;cMUOX;cMUO;cMUOP;cMOT;cMOX;cMO;cMOP;cMEX;cME;cMUT;cMUX;cMU;cMUP
cMURX;cMUR;cMYT;cMYX;cMY;cMYP;cFIT;cFIX;cFI;cFIP;cFAT;cFAX;cFA;cFAP;cFOX;cFO;cFOP;cFUT;cFUX;cFU
cFUP;cFURX;cFUR;cFYT;cFYX;cFY;cFYP;cVIT;cVIX;cVI;cVIP;cVIET;cVIEX;cVIE;cVIEP;cVAT;cVAX;cVA;cVAP
cVOT;cVOX;cVO;cVOP;cVEX;cVEP;cVUT;cVUX;cVU;cVUP;cVURX;cVUR;cVYT;cVYX;cVY;cVYP;cVYRX;cVYR;cDIT;cDIX
cDI;cDIP;cDIEX;cDIE;cDIEP;cDAT;cDAX;cDA;cDAP;cDUOX;cDUO;cDOT;cDOX;cDO;cDOP;cDEX;cDE;cDEP;cDUT;cDUX
cDU;cDUP;cDURX;cDUR;cTIT;cTIX;cTI;cTIP;cTIEX;cTIE;cTIEP;cTAT;cTAX;cTA;cTAP;cTUOT;cTUOX;cTUO;cTUOP
cTOT;cTOX;cTO;cTOP;cTEX;cTE;cTEP;cTUT;cTUX;cTU;cTUP;cTURX;cTUR;cDDIT;cDDIX;cDDI;cDDIP;cDDIEX;cDDIE
cDDIEP;cDDAT;cDDAX;cDDA;cDDAP;cDDUOX;cDDUO;cDDUOP;cDDOT;cDDOX;cDDO;cDDOP;cDDEX;cDDE;cDDEP;cDDUT
cDDUX;cDDU;cDDUP;cDDURX;cDDUR;cNDIT;cNDIX;cNDI;cNDIP;cNDIEX;cNDIE;cNDAT;cNDAX;cNDA;cNDAP;cNDOT
cNDOX;cNDO;cNDOP;cNDEX;cNDE;cNDEP;cNDUT;cNDUX;cNDU;cNDUP;cNDURX;cNDUR;cHNIT;cHNIX;cHNI;cHNIP
cHNIET;cHNIEX;cHNIE;cHNIEP;cHNAT;cHNAX;cHNA;cHNAP;cHNUOX;cHNUO;cHNOT;cHNOX;cHNOP;cHNEX;cHNE;cHNEP
cHNUT;cNIT;cNIX;cNI;cNIP;cNIEX;cNIE;cNIEP;cNAX;cNA;cNAP;cNUOX;cNUO;cNUOP;cNOT;cNOX;cNO;cNOP;cNEX
cNE;cNEP;cNUT;cNUX;cNU;cNUP;cNURX;cNUR;cHLIT;cHLIX;cHLI;cHLIP;cHLIEX;cHLIE;cHLIEP;cHLAT;cHLAX;cHLA
cHLAP;cHLUOX;cHLUO;cHLUOP;cHLOX;cHLO;cHLOP;cHLEX;cHLE;cHLEP;cHLUT;cHLUX;cHLU;cHLUP;cHLURX;cHLUR
cHLYT;cHLYX;cHLY;cHLYP;cHLYRX;cHLYR;cLIT;cLIX;cLI;cLIP;cLIET;cLIEX;cLIE;cLIEP;cLAT;cLAX;cLA;cLAP
cLUOT;cLUOX;cLUO;cLUOP;cLOT;cLOX;cLO;cLOP;cLEX;cLE;cLEP;cLUT;cLUX;cLU;cLUP;cLURX;cLUR;cLYT;cLYX
cLY;cLYP;cLYRX;cLYR;cGIT;cGIX;cGI;cGIP;cGIET;cGIEX;cGIE;cGIEP;cGAT;cGAX;cGA;cGAP;cGUOT;cGUOX;cGUO
cGUOP;cGOT;cGOX;cGO;cGOP;cGET;cGEX;cGE;cGEP;cGUT;cGUX;cGU;cGUP;cGURX;cGUR;cKIT;cKIX;cKI;cKIP;cKIEX
cKIE;cKIEP;cKAT;cKAX;cKA;cKAP;cKUOX;cKUO;cKUOP;cKOT;cKOX;cKO;cKOP;cKET;cKEX;cKE;cKEP;cKUT;cKUX;cKU
cKUP;cKURX;cKUR;cGGIT;cGGIX;cGGI;cGGIEX;cGGIE;cGGIEP;cGGAT;cGGAX;cGGA;cGGAP;cGGUOT;cGGUOX;cGGUO
cGGUOP;cGGOT;cGGOX;cGGO;cGGOP;cGGET;cGGEX;cGGE;cGGEP;cGGUT;cGGUX;cGGU;cGGUP;cGGURX;cGGUR;cMGIEX
cMGIE;cMGAT;cMGAX;cMGA;cMGAP;cMGUOX;cMGUO;cMGUOP;cMGOT;cMGOX;cMGO;cMGOP;cMGEX;cMGE;cMGEP;cMGUT
cMGUX;cMGU;cMGUP;cMGURX;cMGUR;cHXIT;cHXIX;cHXI;cHXIP;cHXIET;cHXIEX;cHXIE;cHXIEP;cHXAT;cHXAX;cHXA
cHXAP;cHXUOT;cHXUOX;cHXUO;cHXUOP;cHXOT;cHXOX;cHXO;cHXOP;cHXEX;cHXE;cHXEP;cNGIEX;cNGIE;cNGIEP;cNGAT
cNGAX;cNGA;cNGAP;cNGUOT;cNGUOX;cNGUO;cNGOT;cNGOX;cNGO;cNGOP;cNGEX;cNGE;cNGEP;cHIT;cHIEX;cHIE;cHAT
cHAX;cHA;cHAP;cHUOT;cHUOX;cHUO;cHUOP;cHOT;cHOX;cHO;cHOP;cHEX;cHE;cHEP;cWAT;cWAX;cWA;cWAP;cWUOX
cWUO;cWUOP;cWOX;cWO;cWOP;cWEX;cWE;cWEP;cZIT;cZIX;cZI;cZIP;cZIEX;cZIE;cZIEP;cZAT;cZAX;cZA;cZAP
cZUOX;cZUO;cZUOP;cZOT;cZOX;cZO;cZOP;cZEX;cZE;cZEP;cZUT;cZUX;cZU;cZUP;cZURX;cZUR;cZYT;cZYX;cZY;cZYP
cZYRX;cZYR;cCIT;cCIX;cCI;cCIP;cCIET;cCIEX;cCIE;cCIEP;cCAT;cCAX;cCA;cCAP;cCUOX;cCUO;cCUOP;cCOT;cCOX
cCO;cCOP;cCEX;cCE;cCEP;cCUT;cCUX;cCU;cCUP;cCURX;cCUR;cCYT;cCYX;cCY;cCYP;cCYRX;cCYR;cZZIT;cZZIX
cZZI;cZZIP;cZZIET;cZZIEX;cZZIE;cZZIEP;cZZAT;cZZAX;cZZA;cZZAP;cZZOX;cZZO;cZZOP;cZZEX;cZZE;cZZEP
cZZUX;cZZU;cZZUP;cZZURX;cZZUR;cZZYT;cZZYX;cZZY;cZZYP;cZZYRX;cZZYR;cNZIT;cNZIX;cNZI;cNZIP;cNZIEX
cNZIE;cNZIEP;cNZAT;cNZAX;cNZA;cNZAP;cNZUOX;cNZUO;cNZOX;cNZOP;cNZEX;cNZE;cNZUX;cNZU;cNZUP;cNZURX
cNZUR;cNZYT;cNZYX;cNZY;cNZYP;cNZYRX;cNZYR;cSIT;cSIX;cSI;cSIP;cSIEX;cSIE;cSIEP;cSAT;cSAX;cSA;cSAP
cSUOX;cSUO;cSUOP;cSOT;cSOX;cSO;cSOP;cSEX;cSE;cSEP;cSUT;cSUX;cSU;cSUP;cSURX;cSUR;cSYT;cSYX;cSY;cSYP
cSYRX;cSYR;cSSIT;cSSIX;cSSI;cSSIP;cSSIEX;cSSIE;cSSIEP;cSSAT;cSSAX;cSSA;cSSAP;cSSOT;cSSOX;cSSO
cSSOP;cSSEX;cSSE;cSSEP;cSSUT;cSSUX;cSSU;cSSUP;cSSYT;cSSYX;cSSY;cSSYP;cSSYRX;cSSYR;cZHAT;cZHAX;cZHA
cZHAP;cZHUOX;cZHUO;cZHUOP;cZHOT;cZHOX;cZHO;cZHOP;cZHET;cZHEX;cZHE;cZHEP;cZHUT;cZHUX;cZHU;cZHUP
cZHURX;cZHUR;cZHYT;cZHYX;cZHY;cZHYP;cZHYRX;cZHYR;cCHAT;cCHAX;cCHA;cCHAP;cCHUOT;cCHUOX;cCHUO;cCHUOP
cCHOT;cCHOX;cCHO;cCHOP;cCHET;cCHEX;cCHE;cCHEP;cCHUX;cCHU;cCHUP;cCHURX;cCHUR;cCHYT;cCHYX;cCHY;cCHYP
cCHYRX;cCHYR;cRRAX;cRRA;cRRUOX;cRRUO;cRROT;cRROX;cRRO;cRROP;cRRET;cRREX;cRRE;cRREP;cRRUT;cRRUX
cRRU;cRRUP;cRRURX;cRRUR;cRRYT;cRRYX;cRRY;cRRYP;cRRYRX;cRRYR;cNRAT;cNRAX;cNRA;cNRAP;cNROX;cNRO
cNROP;cNRET;cNREX;cNRE;cNREP;cNRUT;cNRUX;cNRU;cNRUP;cNRURX;cNRUR;cNRYT;cNRYX;cNRY;cNRYP;cNRYRX
cNRYR;cSHAT;cSHAX;cSHA;cSHAP;cSHUOX;cSHUO;cSHUOP;cSHOT;cSHOX;cSHO;cSHOP;cSHET;cSHEX;cSHE;cSHEP
cSHUT;cSHUX;cSHU;cSHUP;cSHURX;cSHUR;cSHYT;cSHYX;cSHY;cSHYP;cSHYRX;cSHYR;cRAT;cRAX;cRA;cRAP;cRUOX
cRUO;cRUOP;cROT;cROX;cRO;cROP;cREX;cRE;cREP;cRUT;cRUX;cRU;cRUP;cRURX;cRUR;cRYT;cRYX;cRY;cRYP;cRYRX
cRYR;cJIT;cJIX;cJI;cJIP;cJIET;cJIEX;cJIE;cJIEP;cJUOT;cJUOX;cJUO;cJUOP;cJOT;cJOX;cJO;cJOP;cJUT;cJUX
cJU;cJUP;cJURX;cJUR;cJYT;cJYX;cJY;cJYP;cJYRX;cJYR;cQIT;cQIX;cQI;cQIP;cQIET;cQIEX;cQIE;cQIEP;cQUOT
cQUOX;cQUO;cQUOP;cQOT;cQOX;cQO;cQOP;cQUT;cQUX;cQU;cQUP;cQURX;cQUR;cQYT;cQYX;cQY;cQYP;cQYRX;cQYR
cJJIT;cJJIX;cJJI;cJJIP;cJJIET;cJJIEX;cJJIE;cJJIEP;cJJUOX;cJJUO;cJJUOP;cJJOT;cJJOX;cJJO;cJJOP;cJJUT
cJJUX;cJJU;cJJUP;cJJURX;cJJUR;cJJYT;cJJYX;cJJY;cJJYP;cNJIT;cNJIX;cNJI;cNJIP;cNJIET;cNJIEX;cNJIE
cNJIEP;cNJUOX;cNJUO;cNJOT;cNJOX;cNJO;cNJOP;cNJUX;cNJU;cNJUP;cNJURX;cNJUR;cNJYT;cNJYX;cNJY;cNJYP
cNJYRX;cNJYR;cNYIT;cNYIX;cNYI;cNYIP;cNYIET;cNYIEX;cNYIE;cNYIEP;cNYUOX;cNYUO;cNYUOP;cNYOT;cNYOX
cNYO;cNYOP;cNYUT;cNYUX;cNYU;cNYUP;cXIT;cXIX;cXI;cXIP;cXIET;cXIEX;cXIE;cXIEP;cXUOX;cXUO;cXOT;cXOX
cXO;cXOP;cXYT;cXYX;cXY;cXYP;cXYRX;cXYR;cYIT;cYIX;cYI;cYIP;cYIET;cYIEX;cYIE;cYIEP;cYUOT;cYUOX;cYUO
cYUOP;cYOT;cYOX;cYO;cYOP;cYUT;cYUX;cYU;cYUP;cYURX;cYUR;cYYT;cYYX;cYY;cYYP;cYYRX;cYYR;@A490
bRADICAL QOT;cLI;cKIT;cNYIP;cCYP;cSSI;cGGOP;cGEP;cMI;cHXIT;cLYR;cBBUT;cMOP;cYO;cPUT;cHXUO;cTAT;cGA
cZUP;cCYT;cDDUR;cBUR;cGGUO;cNYOP;cTU;cOP;cJJUT;cZOT;cPYT;cHMO;cYIT;cVUR;cSHY;cVEP;cZA;cJO;cNZUP
cJJY;cGOT;cJJIE;cWO;cDU;cSHUR;cLIE;cCY;cCUOP;cCIP;cHXOP;cSHAT;cZUR;cSHOP;cCHE;cZZIET;cNBIE;cKE
@A4D0;aLISU LETTER BA;cPA;cPHA;cDA;cTA;cTHA;cGA;cKA;cKHA;cJA;cCA;cCHA;cDZA;cTSA;cTSHA;cMA;cNA;cLA
cSA;cZHA;cZA;cNGA;cHA;cXA;cHHA;cFA;cWA;cSHA;cYA;cGHA;cA;cAE;cE;cEU;cI;cO;cU;cUE;cUH;cOE
cTONE MYA TI;dNA PO;dMYA CYA;eBO;eNA;eJEU;bPUNCTUATION COMMA;cFULL STOP;aVAI SYLLABLE EE;cEEN;cHEE
cWEE;cWEEN;cPEE;cBHEE;cBEE;cMBEE;cKPEE;cMGBEE;cGBEE;cFEE;cVEE;cTEE;cTHEE;cDHEE;cDHHEE;cLEE;cREE
cDEE;cNDEE;cSEE;cSHEE;cZEE;cZHEE;cCEE;cJEE;cNJEE;cYEE;cKEE;cNGGEE;cGEE;cMEE;cNEE;cNYEE;cI;cIN;cHI
cHIN;cWI;cWIN;cPI;cBHI;cBI;cMBI;cKPI;cMGBI;cGBI;cFI;cVI;cTI;cTHI;cDHI;cDHHI;cLI;cRI;cDI;cNDI;cSI
cSHI;cZI;cZHI;cCI;cJI;cNJI;cYI;cKI;cNGGI;cGI;cMI;cNI;cNYI;cA;cAN;cNGAN;cHA;cHAN;cWA;cWAN;cPA;cBHA
cBA;cMBA;cKPA;cKPAN;cMGBA;cGBA;cFA;cVA;cTA;cTHA;cDHA;cDHHA;cLA;cRA;cDA;cNDA;cSA;cSHA;cZA;cZHA;cCA
cJA;cNJA;cYA;cKA;cKAN;cNGGA;cGA;cMA;cNA;cNYA;cOO;cOON;cHOO;cWOO;cWOON;cPOO;cBHOO;cBOO;cMBOO;cKPOO
cMGBOO;cGBOO;cFOO;cVOO;cTOO;cTHOO;cDHOO;cDHHOO;cLOO;cROO;cDOO;cNDOO;cSOO;cSHOO;cZOO;cZHOO;cCOO
cJOO;cNJOO;cYOO;cKOO;cNGGOO;cGOO;cMOO;cNOO;cNYOO;cU;cUN;cHU;cHUN;cWU;cWUN;cPU;cBHU;cBU;cMBU;cKPU
cMGBU;cGBU;cFU;cVU;cTU;cTHU;cDHU;cDHHU;cLU;cRU;cDU;cNDU;cSU;cSHU;cZU;cZHU;cCU;cJU;cNJU;cYU;cKU
cNGGU;cGU;cMU;cNU;cNYU;cO;cON;cNGON;cHO;cHON;cWO;cWON;cPO;cBHO;cBO;cMBO;cKPO;cMGBO;cGBO;cGBON;cFO
cVO;cTO;cTHO;cDHO;cDHHO;cLO;cRO;cDO;cNDO;cSO;cSHO;cZO;cZHO;cCO;cJO;cNJO;cYO;cKO;cNGGO;cGO;cMO;cNO
cNYO;cE;cEN;cNGEN;cHE;cHEN;cWE;cWEN;cPE;cBHE;cBE;cMBE;cKPE;cKPEN;cMGBE;cGBE;cGBEN;cFE;cVE;cTE;cTHE
cDHE;cDHHE;cLE;cRE;cDE;cNDE;cSE;cSHE;cZE;cZHE;cCE;cJE;cNJE;cYE;cKE;cNGGE;cNGGEN;cGE;cGEN;cME;cNE
cNYE;cNG;cLENGTHENER;bCOMMA;bFULL STOP;bQUESTION MARK;bSYLLABLE NDOLE FA;dKA;dSOO;bSYMBOL FEENG
cKEENG;cTING;cNII;cBANG;cFAA;cTAA;cDANG;cDOONG;cKUNG;cTONG;cDO-O;cJONG;bDIGIT ZERO;cONE;cTWO
cTHREE;cFOUR;cFIVE;cSIX;cSEVEN;cEIGHT;cNINE;bSYLLABLE NDOLE MA;dDO;@A640
aCYRILLIC CAPITAL LETTER ZEMLYA;bSMALL LETTER ZEMLYA;bCAPITAL LETTER DZELO;bSMALL LETTER DZELO
bCAPITAL LETTER REVERSED DZE;bSMALL LETTER REVERSED DZE;bCAPITAL LETTER IOTA;bSMALL LETTER IOTA
bCAPITAL LETTER DJERV;bSMALL LETTER DJERV;bCAPITAL LETTER MONOGRAPH UK;bSMALL LETTER MONOGRAPH UK
bCAPITAL LETTER BROAD OMEGA;bSMALL LETTER BROAD OMEGA;bCAPITAL LETTER NEUTRAL YER
bSMALL LETTER NEUTRAL YER;bCAPITAL LETTER YERU WITH BACK YER;bSMALL LETTER YERU WITH BACK YER
bCAPITAL LETTER IOTIFIED YAT;bSMALL LETTER IOTIFIED YAT;bCAPITAL LETTER REVERSED YU
bSMALL LETTER REVERSED YU;bCAPITAL LETTER IOTIFIED A;bSMALL LETTER IOTIFIED A
bCAPITAL LETTER CLOSED LITTLE YUS;bSMALL LETTER CLOSED LITTLE YUS;bCAPITAL LETTER BLENDED YUS
bSMALL LETTER BLENDED YUS;bCAPITAL LETTER IOTIFIED CLOSED LITTLE YUS
bSMALL LETTER IOTIFIED CLOSED LITTLE YUS;bCAPITAL LETTER YN;bSMALL LETTER YN
bCAPITAL LETTER REVERSED TSE;bSMALL LETTER REVERSED TSE;bCAPITAL LETTER SOFT DE
bSMALL LETTER SOFT DE;bCAPITAL LETTER SOFT EL;bSMALL LETTER SOFT EL;bCAPITAL LETTER SOFT EM
bSMALL LETTER SOFT EM;bCAPITAL LETTER MONOCULAR O;bSMALL LETTER MONOCULAR O
bCAPITAL LETTER BINOCULAR O;bSMALL LETTER BINOCULAR O;bCAPITAL LETTER DOUBLE MONOCULAR O
bSMALL LETTER DOUBLE MONOCULAR O;bLETTER MULTIOCULAR O;aCOMBINING CYRILLIC VZMET
cTEN MILLIONS SIGN;cHUNDRED MILLIONS SIGN;cTHOUSAND MILLIONS SIGN;aSLAVONIC ASTERISK
aCOMBINING CYRILLIC LETTER UKRAINIAN IE;dI;dYI;dU;dHARD SIGN;dYERU;dSOFT SIGN;dOMEGA;cKAVYKA
cPAYEROK;aCYRILLIC KAVYKA;bPAYEROK;bCAPITAL LETTER DWE;bSMALL LETTER DWE;bCAPITAL LETTER DZWE
bSMALL LETTER DZWE;bCAPITAL LETTER ZHWE;bSMALL LETTER ZHWE;bCAPITAL LETTER CCHE;bSMALL LETTER CCHE
bCAPITAL LETTER DZZE;bSMALL LETTER DZZE;bCAPITAL LETTER TE WITH MIDDLE HOOK
bSMALL LETTER TE WITH MIDDLE HOOK;bCAPITAL LETTER TWE;bSMALL LETTER TWE;bCAPITAL LETTER TSWE
bSMALL LETTER TSWE;bCAPITAL LETTER TSSE;bSMALL LETTER TSSE;bCAPITAL LETTER TCHE;bSMALL LETTER TCHE
bCAPITAL LETTER HWE;bSMALL LETTER HWE;bCAPITAL LETTER SHWE;bSMALL LETTER SHWE
bCAPITAL LETTER DOUBLE O;bSMALL LETTER DOUBLE O;bCAPITAL LETTER CROSSED O;bSMALL LETTER CROSSED O
aMODIFIER LETTER CYRILLIC HARD SIGN;dSOFT SIGN;aCOMBINING CYRILLIC LETTER EF;dIOTIFIED E
aBAMUM LETTER A;cKA;cU;cKU;cEE;cREE;cTAE;cO;cNYI;cI;cLA;cPA;cRII;cRIEE;cLEEEE;cMEEEE;cTAA;cNDAA
cNJAEM;cM;cSUU;cMU;cSHII;cSI;cSHEUX;cSEUX;cKYEE;cKET;cNUAE;cNU;cNJUAE;cYOQ;cSHU;cYUQ;cYA;cNSHA
cKEUX;cPEUX;cNJEE;cNTEE;cPUE;cWUE;cPEE;cFEE;cRU;cLU;cMI;cNI;cREUX;cRAE;cKEN;cNGKWAEN;cNGGA;cNGA
cSHO;cPUAE;cFU;cFOM;cWA;cNA;cLI;cPI;cLOQ;cKO;cMBEN;cREN;cMEN;cMA;cTI;cKI;cMO;cMBAA;cTET;cKPA;cTEN
cNTUU;cSAMBA;cFAAMAE;cKOVUU;cKOGHOM;bCOMBINING MARK KOQNDON;dTUKWENTIS;bNJAEMLI;bFULL STOP;bCOLON
bCOMMA;bSEMICOLON;bQUESTION MARK;@A700;aMODIFIER LETTER CHINESE TONE YIN PING;eYANG PING
eYIN SHANG;eYANG SHANG;eYIN QU;eYANG QU;eYIN RU;eYANG RU;cEXTRA-HIGH DOTTED TONE BAR
cHIGH DOTTED TONE BAR;cMID DOTTED TONE BAR;cLOW DOTTED TONE BAR;cEXTRA-LOW DOTTED TONE BAR
cEXTRA-HIGH DOTTED LEFT-STEM TONE BAR;cHIGH DOTTED LEFT-STEM TONE BAR
cMID DOTTED LEFT-STEM TONE BAR;cLOW DOTTED LEFT-STEM TONE BAR;cEXTRA-LOW DOTTED LEFT-STEM TONE BAR
cEXTRA-HIGH LEFT-STEM TONE BAR;cHIGH LEFT-STEM TONE BAR;cMID LEFT-STEM TONE BAR
cLOW LEFT-STEM TONE BAR;cEXTRA-LOW LEFT-STEM TONE BAR;cDOT VERTICAL BAR;dSLASH;dHORIZONTAL BAR
cLOWER RIGHT CORNER ANGLE;cRAISED UP ARROW;dDOWN ARROW;dEXCLAMATION MARK
dINVERTED EXCLAMATION MARK;cLOW INVERTED EXCLAMATION MARK;cSTRESS AND HIGH TONE;eLOW TONE
aLATIN CAPITAL LETTER EGYPTOLOGICAL ALEF;bSMALL LETTER EGYPTOLOGICAL ALEF
bCAPITAL LETTER EGYPTOLOGICAL AIN;bSMALL LETTER EGYPTOLOGICAL AIN;bCAPITAL LETTER HENG
bSMALL LETTER HENG;bCAPITAL LETTER TZ;bSMALL LETTER TZ;bCAPITAL LETTER TRESILLO
bSMALL LETTER TRESILLO;bCAPITAL LETTER CUATRILLO;bSMALL LETTER CUATRILLO
bCAPITAL LETTER CUATRILLO WITH COMMA;bSMALL LETTER CUATRILLO WITH COMMA;bLETTER SMALL CAPITAL F;eS
bCAPITAL LETTER AA;bSMALL LETTER AA;bCAPITAL LETTER AO;bSMALL LETTER AO;bCAPITAL LETTER AU
bSMALL LETTER AU;bCAPITAL LETTER AV;bSMALL LETTER AV;bCAPITAL LETTER AV WITH HORIZONTAL BAR
bSMALL LETTER AV WITH HORIZONTAL BAR;bCAPITAL LETTER AY;bSMALL LETTER AY
bCAPITAL LETTER REVERSED C WITH DOT;bSMALL LETTER REVERSED C WITH DOT
bCAPITAL LETTER K WITH STROKE;bSMALL LETTER K WITH STROKE;bCAPITAL LETTER K WITH DIAGONAL STROKE
bSMALL LETTER K WITH DIAGONAL STROKE;bCAPITAL LETTER K WITH STROKE AND DIAGONAL STROKE
bSMALL LETTER K WITH STROKE AND DIAGONAL STROKE;bCAPITAL LETTER BROKEN L;bSMALL LETTER BROKEN L
bCAPITAL LETTER L WITH HIGH STROKE;bSMALL LETTER L WITH HIGH STROKE
bCAPITAL LETTER O WITH LONG STROKE OVERLAY;bSMALL LETTER O WITH LONG STROKE OVERLAY
bCAPITAL LETTER O WITH LOOP;bSMALL LETTER O WITH LOOP;bCAPITAL LETTER OO;bSMALL LETTER OO
bCAPITAL LETTER P WITH STROKE THROUGH DESCENDER;bSMALL LETTER P WITH STROKE THROUGH DESCENDER
bCAPITAL LETTER P WITH FLOURISH;bSMALL LETTER P WITH FLOURISH;bCAPITAL LETTER P WITH SQUIRREL TAIL
bSMALL LETTER P WITH SQUIRREL TAIL;bCAPITAL LETTER Q WITH STROKE THROUGH DESCENDER
bSMALL LETTER Q WITH STROKE THROUGH DESCENDER;bCAPITAL LETTER Q WITH DIAGONAL STROKE
bSMALL LETTER Q WITH DIAGONAL STROKE;bCAPITAL LETTER R ROTUNDA;bSMALL LETTER R ROTUNDA
bCAPITAL LETTER RUM ROTUNDA;bSMALL LETTER RUM ROTUNDA;bCAPITAL LETTER V WITH DIAGONAL STROKE
bSMALL LETTER V WITH DIAGONAL STROKE;bCAPITAL LETTER VY;bSMALL LETTER VY
bCAPITAL LETTER VISIGOTHIC Z;bSMALL LETTER VISIGOTHIC Z;bCAPITAL LETTER THORN WITH STROKE
bSMALL LETTER THORN WITH STROKE;bCAPITAL LETTER THORN WITH STROKE THROUGH DESCENDER
bSMALL LETTER THORN WITH STROKE THROUGH DESCENDER;bCAPITAL LETTER VEND;bSMALL LETTER VEND
bCAPITAL LETTER ET;bSMALL LETTER ET;bCAPITAL LETTER IS;bSMALL LETTER IS;bCAPITAL LETTER CON
bSMALL LETTER CON;aMODIFIER LETTER US;aLATIN SMALL LETTER DUM;dLUM;dMUM;dNUM;dRUM
bLETTER SMALL CAPITAL RUM;bSMALL LETTER TUM;dUM;bCAPITAL LETTER INSULAR D;bSMALL LETTER INSULAR D
bCAPITAL LETTER INSULAR F;bSMALL LETTER INSULAR F;bCAPITAL LETTER INSULAR G;dTURNED INSULAR G
bSMALL LETTER TURNED INSULAR G;bCAPITAL LETTER TURNED L;bSMALL LETTER TURNED L
bCAPITAL LETTER INSULAR R;bSMALL LETTER INSULAR R;bCAPITAL LETTER INSULAR S
bSMALL LETTER INSULAR S;bCAPITAL LETTER INSULAR T;bSMALL LETTER INSULAR T
aMODIFIER LETTER LOW CIRCUMFLEX ACCENT;cCOLON;cSHORT EQUALS SIGN;aLATIN CAPITAL LETTER SALTILLO
bSMALL LETTER SALTILLO;bCAPITAL LETTER TURNED H;bSMALL LETTER L WITH RETROFLEX HOOK AND BELT
bLETTER SINOLOGICAL DOT;bCAPITAL LETTER N WITH DESCENDER;bSMALL LETTER N WITH DESCENDER
bCAPITAL LETTER C WITH BAR;bSMALL LETTER C WITH BAR;fPALATAL HOOK;dH WITH PALATAL HOOK
bCAPITAL LETTER B WITH FLOURISH;bSMALL LETTER B WITH FLOURISH;bCAPITAL LETTER F WITH STROKE
bSMALL LETTER F WITH STROKE;bCAPITAL LETTER VOLAPUK AE;bSMALL LETTER VOLAPUK AE
bCAPITAL LETTER VOLAPUK OE;bSMALL LETTER VOLAPUK OE;bCAPITAL LETTER VOLAPUK UE
bSMALL LETTER VOLAPUK UE;bCAPITAL LETTER G WITH OBLIQUE STROKE;bSMALL LETTER G WITH OBLIQUE STROKE
bCAPITAL LETTER K WITH OBLIQUE STROKE;bSMALL LETTER K WITH OBLIQUE STROKE
bCAPITAL LETTER N WITH OBLIQUE STROKE;bSMALL LETTER N WITH OBLIQUE STROKE
bCAPITAL LETTER R WITH OBLIQUE STROKE;bSMALL LETTER R WITH OBLIQUE STROKE
bCAPITAL LETTER S WITH OBLIQUE STROKE;bSMALL LETTER S WITH OBLIQUE STROKE
bCAPITAL LETTER H WITH HOOK;dREVERSED OPEN E;dSCRIPT G;dL WITH BELT;dSMALL CAPITAL I
bLETTER SMALL CAPITAL Q;bCAPITAL LETTER TURNED K;eT;dJ WITH CROSSED-TAIL;dCHI;dBETA
bSMALL LETTER BETA;bCAPITAL LETTER OMEGA;bSMALL LETTER OMEGA;bCAPITAL LETTER U WITH STROKE
bSMALL LETTER U WITH STROKE;bCAPITAL LETTER GLOTTAL A;bSMALL LETTER GLOTTAL A
bCAPITAL LETTER GLOTTAL I;bSMALL LETTER GLOTTAL I;bCAPITAL LETTER GLOTTAL U
bSMALL LETTER GLOTTAL U;bCAPITAL LETTER OLD POLISH O;bSMALL LETTER OLD POLISH O
bCAPITAL LETTER ANGLICANA W;bSMALL LETTER ANGLICANA W;bCAPITAL LETTER C WITH PALATAL HOOK
dS WITH HOOK;dZ WITH PALATAL HOOK;dD WITH SHORT STROKE OVERLAY
bSMALL LETTER D WITH SHORT STROKE OVERLAY;bCAPITAL LETTER S WITH SHORT STROKE OVERLAY
bSMALL LETTER S WITH SHORT STROKE OVERLAY;@A7D0;bCAPITAL LETTER CLOSED INSULAR G
bSMALL LETTER CLOSED INSULAR G;@A7D3;dDOUBLE THORN;@A7D5;eWYNN;bCAPITAL LETTER MIDDLE SCOTS S
bSMALL LETTER MIDDLE SCOTS S;bCAPITAL LETTER SIGMOID S;bSMALL LETTER SIGMOID S;@A7F2
aMODIFIER LETTER CAPITAL C;dF;dQ;aLATIN CAPITAL LETTER REVERSED HALF H
bSMALL LETTER REVERSED HALF H;bEPIGRAPHIC LETTER SIDEWAYS I;aMODIFIER LETTER CAPITAL H WITH STROKE
cSMALL LIGATURE OE;aLATIN LETTER SMALL CAPITAL TURNED M;bEPIGRAPHIC LETTER REVERSED F;eP
dINVERTED M;dI LONGA;dARCHAIC M;aSYLOTI NAGRI LETTER A;dI;cSIGN DVISVARA;cLETTER U;dE;dO
cSIGN HASANTA;cLETTER KO;dKHO;dGO;dGHO;cSIGN ANUSVARA;cLETTER CO;dCHO;dJO;dJHO;dTTO;dTTHO;dDDO
dDDHO;dTO;dTHO;dDO;dDHO;dNO;dPO;dPHO;dBO;dBHO;dMO;dRO;dLO;dRRO;dSO;dHO;cVOWEL SIGN A;eI;eU;eE;eOO
cPOETRY MARK-1;dMARK-2;dMARK-3;dMARK-4;cSIGN ALTERNATE HASANTA;@A830
aNORTH INDIC FRACTION ONE QUARTER;eHALF;dTHREE QUARTERS;dONE SIXTEENTH;eEIGHTH;dTHREE SIXTEENTHS
cQUARTER MARK;cPLACEHOLDER MARK;cRUPEE MARK;cQUANTITY MARK;@A840;aPHAGS-PA LETTER KA;cKHA;cGA;cNGA
cCA;cCHA;cJA;cNYA;cTA;cTHA;cDA;cNA;cPA;cPHA;cBA;cMA;cTSA;cTSHA;cDZA;cWA;cZHA;cZA;cSMALL A;cYA;cRA
cLA;cSHA;cSA;cHA;cA;cI;cU;cE;cO;cQA;cXA;cFA;cGGA;cEE;bSUBJOINED LETTER WA;dYA;bLETTER TTA;cTTHA
cDDA;cNNA;cALTERNATE YA;cVOICELESS SHA;cVOICED HA;cASPIRATED FA;bSUBJOINED LETTER RA
bSUPERFIXED LETTER RA;bLETTER CANDRABINDU;bSINGLE HEAD MARK;bDOUBLE HEAD MARK;bMARK SHAD
cDOUBLE SHAD;@A880;aSAURASHTRA SIGN ANUSVARA;cVISARGA;bLETTER A;cAA;cI;cII;cU;cUU;cVOCALIC R;dRR
dL;dLL;cE;cEE;cAI;cO;cOO;cAU;cKA;cKHA;cGA;cGHA;cNGA;cCA;cCHA;cJA;cJHA;cNYA;cTTA;cTTHA;cDDA;cDDHA
cNNA;cTA;cTHA;cDA;cDHA;cNA;cPA;cPHA;cBA;cBHA;cMA;cYA;cRA;cLA;cVA;cSHA;cSSA;cSA;cHA;cLLA
bCONSONANT SIGN HAARU;bVOWEL SIGN AA;dI;dII;dU;dUU;dVOCALIC R;eRR;eL;eLL;dE;dEE;dAI;dO;dOO;dAU
bSIGN VIRAMA;cCANDRABINDU;@A8CE;bDANDA;bDOUBLE DANDA;bDIGIT ZERO;cONE;cTWO;cTHREE;cFOUR;cFIVE;cSIX
cSEVEN;cEIGHT;cNINE;@A8E0;aCOMBINING DEVANAGARI DIGIT ZERO;dONE;dTWO;dTHREE;dFOUR;dFIVE;dSIX
dSEVEN;dEIGHT;dNINE;cLETTER A;dU;dKA;dNA;dPA;dRA;dVI;cSIGN AVAGRAHA
aDEVANAGARI SIGN SPACING CANDRABINDU;cCANDRABINDU VIRAMA;cDOUBLE CANDRABINDU VIRAMA
cCANDRABINDU TWO;dTHREE;dAVAGRAHA;cPUSHPIKA;bGAP FILLER;bCARET;bHEADSTROKE;bSIGN SIDDHAM;bJAIN OM
bLETTER AY;bVOWEL SIGN AY;aKAYAH LI DIGIT ZERO;dONE;dTWO;dTHREE;dFOUR;dFIVE;dSIX;dSEVEN;dEIGHT
dNINE;cLETTER KA;dKHA;dGA;dNGA;dSA;dSHA;dZA;dNYA;dTA;dHTA;dNA;dPA;dPHA;dMA;dDA;dBA;dRA;dYA;dLA;dWA
dTHA;dHA;dVA;dCA;dA;dOE;dI;dOO;cVOWEL UE;dE;dU;dEE;dO;cTONE PLOPHU;dCALYA;ePLOPHU;cSIGN CWI;dSHYA
aREJANG LETTER KA;cGA;cNGA;cTA;cDA;cNA;cPA;cBA;cMA;cCA;cJA;cNYA;cSA;cRA;cLA;cYA;cWA;cHA;cMBA;cNGGA
cNDA;cNYJA;cA;bVOWEL SIGN I;dU;dE;dAI;dO;dAU;dEU;dEA;bCONSONANT SIGN NG;dN;dR;dH;bVIRAMA;@A95F
bSECTION MARK;aHANGUL CHOSEONG TIKEUT-MIEUM;cTIKEUT-PIEUP;cTIKEUT-SIOS;cTIKEUT-CIEUC;cRIEUL-KIYEOK
cRIEUL-SSANGKIYEOK;cRIEUL-TIKEUT;cRIEUL-SSANGTIKEUT;cRIEUL-MIEUM;cRIEUL-PIEUP;cRIEUL-SSANGPIEUP
cRIEUL-KAPYEOUNPIEUP;cRIEUL-SIOS;cRIEUL-CIEUC;cRIEUL-KHIEUKH;cMIEUM-KIYEOK;cMIEUM-TIKEUT
cMIEUM-SIOS;cPIEUP-SIOS-THIEUTH;cPIEUP-KHIEUKH;cPIEUP-HIEUH;cSSANGSIOS-PIEUP;cIEUNG-RIEUL
cIEUNG-HIEUH;cSSANGCIEUC-HIEUH;cSSANGTHIEUTH;cPHIEUPH-HIEUH;cHIEUH-SIOS;cSSANGYEORINHIEUH;@A980
aJAVANESE SIGN PANYANGGA;cCECAK;cLAYAR;cWIGNYAN;bLETTER A;cI KAWI;cI;cII;cU;cPA CEREK;cNGA LELET
eRASWADI;cE;cAI;cO;cKA;dSASAK;dMURDA;cGA;dMURDA;cNGA;cCA;dMURDA;cJA;cNYA MURDA;cJA MAHAPRANA;cNYA
cTTA;dMAHAPRANA;cDDA;dMAHAPRANA;cNA MURDA;cTA;dMURDA;cDA;dMAHAPRANA;cNA;cPA;dMURDA;cBA;dMURDA;cMA
cYA;cRA;dAGUNG;cLA;cWA;cSA MURDA;dMAHAPRANA;cSA;cHA;bSIGN CECAK TELU;bVOWEL SIGN TARUNG;dTOLONG
dWULU;eMELIK;dSUKU;eMENDUT;dTALING;dDIRGA MURE;dPEPET;bCONSONANT SIGN KERET;dPENGKAL;dCAKRA
bPANGKON;bLEFT RERENGGAN;bRIGHT RERENGGAN;bPADA ANDAP;cMADYA;cLUHUR;cWINDU;cPANGKAT;cLINGSA
cLUNGSI;cADEG;dADEG;cPISELEH;bTURNED PADA PISELEH;@A9CF;bPANGRANGKEP;bDIGIT ZERO;cONE;cTWO;cTHREE
cFOUR;cFIVE;cSIX;cSEVEN;cEIGHT;cNINE;@A9DE;bPADA TIRTA TUMETES;cISEN-ISEN;aMYANMAR LETTER SHAN GHA
dCHA;dJHA;dNNA;dBHA;bSIGN SHAN SAW;bMODIFIER LETTER SHAN REDUPLICATION;bLETTER TAI LAING NYA;eFA
eGA;eGHA;eJA;eJHA;eDDA;eDDHA;eNNA;bTAI LAING DIGIT ZERO;eONE;eTWO;eTHREE;eFOUR;eFIVE;eSIX;eSEVEN
eEIGHT;eNINE;bLETTER TAI LAING LLA;eDA;eDHA;eBA;eBHA;@AA00;aCHAM LETTER A;cI;cU;cE;cAI;cO;cKA;cKHA
cGA;cGHA;cNGUE;cNGA;cCHA;cCHHA;cJA;cJHA;cNHUE;cNHA;cNHJA;cTA;cTHA;cDA;cDHA;cNUE;cNA;cDDA;cPA;cPPA
cPHA;cBA;cBHA;cMUE;cMA;cBBA;cYA;cRA;cLA;cVA;cSSA;cSA;cHA;bVOWEL SIGN AA;dI;dII;dEI;dU;dOE;dO;dAI
dAU;dUE;bCONSONANT SIGN YA;dRA;dLA;dWA;@AA40;bLETTER FINAL K;dG;dNG;bCONSONANT SIGN FINAL NG
bLETTER FINAL CH;dT;dN;dP;dY;dR;dL;dSS;bCONSONANT SIGN FINAL M;eH;@AA50;bDIGIT ZERO;cONE;cTWO
cTHREE;cFOUR;cFIVE;cSIX;cSEVEN;cEIGHT;cNINE;@AA5C;bPUNCTUATION SPIRAL;cDANDA;cDOUBLE DANDA
cTRIPLE DANDA;aMYANMAR LETTER KHAMTI GA;dCA;dCHA;dJA;dJHA;dNYA;dTTA;dTTHA;dDDA;dDDHA;dDHA;dNA;dSA
dHA;dHHA;dFA;bMODIFIER LETTER KHAMTI REDUPLICATION;bLETTER KHAMTI XA;dZA;dRA;bLOGOGRAM KHAMTI OAY
dQN;dHM;bSYMBOL AITON EXCLAMATION;dONE;dTWO;bLETTER AITON RA;bSIGN PAO KAREN TONE
cTAI LAING TONE-2;eTONE-5;bLETTER SHWE PALAUNG CHA;eSHA;aTAI VIET LETTER LOW KO;dHIGH KO;dLOW KHO
dHIGH KHO;dLOW KHHO;dHIGH KHHO;dLOW GO;dHIGH GO;dLOW NGO;dHIGH NGO;dLOW CO;dHIGH CO;dLOW CHO
dHIGH CHO;dLOW SO;dHIGH SO;dLOW NYO;dHIGH NYO;dLOW DO;dHIGH DO;dLOW TO;dHIGH TO;dLOW THO;dHIGH THO
dLOW NO;dHIGH NO;dLOW BO;dHIGH BO;dLOW PO;dHIGH PO;dLOW PHO;dHIGH PHO;dLOW FO;dHIGH FO;dLOW MO
dHIGH MO;dLOW YO;dHIGH YO;dLOW RO;dHIGH RO;dLOW LO;dHIGH LO;dLOW VO;dHIGH VO;dLOW HO;dHIGH HO
dLOW O;dHIGH O;cMAI KANG;cVOWEL AA;dI;dUE;dU;dE;dO;cMAI KHIT;cVOWEL IA;dUEA;dUA;dAUE;dAY;dAN;dAM
cTONE MAI EK;eNUENG;eTHO;eSONG;@AADB;cSYMBOL KON;dNUENG;dSAM;dHO HOI;dKOI KOI
aMEETEI MAYEK LETTER E;dO;dCHA;dNYA;dTTA;dTTHA;dDDA;dDDHA;dNNA;dSHA;dSSA;cVOWEL SIGN II;eUU;eAAI
eAU;eAAU;cCHEIKHAN;cAHANG KHUDAM;cANJI;cSYLLABLE REPETITION MARK;cWORD REPETITION MARK
cVOWEL SIGN VISARGA;cVIRAMA;@AB01;aETHIOPIC SYLLABLE TTHU;cTTHI;cTTHAA;cTTHEE;cTTHE;cTTHO;@AB09
cDDHU;cDDHI;cDDHAA;cDDHEE;cDDHE;cDDHO;@AB11;cDZU;cDZI;cDZAA;cDZEE;cDZE;cDZO;@AB20;cCCHHA;cCCHHU
cCCHHI;cCCHHAA;cCCHHEE;cCCHHE;cCCHHO;@AB28;cBBA;cBBU;cBBI;cBBAA;cBBEE;cBBE;cBBO;@AB30
aLATIN SMALL LETTER BARRED ALPHA;dA REVERSED-SCHWA;dBLACKLETTER E;dBARRED E;dE WITH FLOURISH
dLENIS F;dSCRIPT G WITH CROSSED-TAIL;dL WITH INVERTED LAZY S;fDOUBLE MIDDLE TILDE;fMIDDLE RING
dM WITH CROSSED-TAIL;dN WITH CROSSED-TAIL;dENG WITH CROSSED-TAIL;dBLACKLETTER O;fWITH STROKE
dOPEN O WITH STROKE;dINVERTED OE;dTURNED OE WITH STROKE;gHORIZONTAL STROKE;eO OPEN-O;gWITH STROKE
dSTIRRUP R;bLETTER SMALL CAPITAL R WITH RIGHT LEG;bSMALL LETTER R WITHOUT HANDLE;dDOUBLE R
dR WITH CROSSED-TAIL;dDOUBLE R WITH CROSSED-TAIL;dSCRIPT R;fWITH RING;dBASELINE ESH
dU WITH SHORT RIGHT LEG;eBAR WITH SHORT RIGHT LEG;dUI;dTURNED UI;dU WITH LEFT HOOK;dCHI
eWITH LOW RIGHT RING;gLEFT SERIF;dX WITH LOW RIGHT RING;fLONG LEFT LEG;iAND LOW RIGHT RING
iWITH SERIF;dY WITH SHORT RIGHT LEG;aMODIFIER BREVE WITH INVERTED BREVE;bLETTER SMALL HENG
dL WITH INVERTED LAZY S;fMIDDLE TILDE;dU WITH LEFT HOOK;aLATIN SMALL LETTER SAKHA YAT;dIOTIFIED E
dOPEN OE;dUO;dINVERTED ALPHA;aGREEK LETTER SMALL CAPITAL OMEGA
aLATIN SMALL LETTER DZ DIGRAPH WITH RETROFLEX HOOK;dTS DIGRAPH WITH RETROFLEX HOOK
dTURNED R WITH MIDDLE TILDE;aMODIFIER LETTER SMALL TURNED W;cLEFT TACK;cRIGHT TACK;@AB70
aCHEROKEE SMALL LETTER A;dE;dI;dO;dU;dV;dGA;dKA;dGE;dGI;dGO;dGU;dGV;dHA;dHE;dHI;dHO;dHU;dHV;dLA
dLE;dLI;dLO;dLU;dLV;dMA;dME;dMI;dMO;dMU;dNA;dHNA;dNAH;dNE;dNI;dNO;dNU;dNV;dQUA;dQUE;dQUI;dQUO;dQUU
dQUV;dSA;dS;dSE;dSI;dSO;dSU;dSV;dDA;dTA;dDE;dTE;dDI;dTI;dDO;dDU;dDV;dDLA;dTLA;dTLE;dTLI;dTLO;dTLU
dTLV;dTSA;dTSE;dTSI;dTSO;dTSU;dTSV;dWA;dWE;dWI;dWO;dWU;dWV;dYA;aMEETEI MAYEK LETTER KOK;dSAM;dLAI
dMIT;dPA;dNA;dCHIL;dTIL;dKHOU;dNGOU;dTHOU;dWAI;dYANG;dHUK;dUN;dI;dPHAM;dATIYA;dGOK;dJHAM;dRAI;dBA
dJIL;dDIL;dGHOU;dDHOU;dBHAM;dKOK LONSUM;dLAI LONSUM;dMIT LONSUM;dPA LONSUM;dNA LONSUM;dTIL LONSUM
dNGOU LONSUM;dI LONSUM;cVOWEL SIGN ONAP;eINAP;eANAP;eYENAP;eSOUNAP;eUNAP;eCHEINAP;eNUNG;cCHEIKHEI
cLUM IYEK;cAPUN IYEK;@ABF0;cDIGIT ZERO;dONE;dTWO;dTHREE;dFOUR;dFIVE;dSIX;dSEVEN;dEIGHT;dNINE;@D7B0
aHANGUL JUNGSEONG O-YEO;cO-O-I;cYO-A;cYO-AE;cYO-EO;cU-YEO;cU-I-I;cYU-AE;cYU-O;cEU-A;cEU-EO;cEU-E
cEU-O;cI-YA-O;cI-YAE;cI-YEO;cI-YE;cI-O-I;cI-YO;cI-YU;cI-I;cARAEA-A;cARAEA-E;@D7CB
bJONGSEONG NIEUN-RIEUL;cNIEUN-CHIEUCH;cSSANGTIKEUT;cSSANGTIKEUT-PIEUP;cTIKEUT-PIEUP;cTIKEUT-SIOS
cTIKEUT-SIOS-KIYEOK;cTIKEUT-CIEUC;cTIKEUT-CHIEUCH;cTIKEUT-THIEUTH;cRIEUL-SSANGKIYEOK
cRIEUL-KIYEOK-HIEUH;cSSANGRIEUL-KHIEUKH;cRIEUL-MIEUM-HIEUH;cRIEUL-PIEUP-TIKEUT
cRIEUL-PIEUP-PHIEUPH;cRIEUL-YESIEUNG;cRIEUL-YEORINHIEUH-HIEUH;cKAPYEOUNRIEUL;cMIEUM-NIEUN
cMIEUM-SSANGNIEUN;cSSANGMIEUM;cMIEUM-PIEUP-SIOS;cMIEUM-CIEUC;cPIEUP-TIKEUT;cPIEUP-RIEUL-PHIEUPH
cPIEUP-MIEUM;cSSANGPIEUP;cPIEUP-SIOS-TIKEUT;cPIEUP-CIEUC;cPIEUP-CHIEUCH;cSIOS-MIEUM
cSIOS-KAPYEOUNPIEUP;cSSANGSIOS-KIYEOK;cSSANGSIOS-TIKEUT;cSIOS-PANSIOS;cSIOS-CIEUC;cSIOS-CHIEUCH
cSIOS-THIEUTH;cSIOS-HIEUH;cPANSIOS-PIEUP;cPANSIOS-KAPYEOUNPIEUP;cYESIEUNG-MIEUM;cYESIEUNG-HIEUH
cCIEUC-PIEUP;cCIEUC-SSANGPIEUP;cSSANGCIEUC;cPHIEUPH-SIOS;cPHIEUPH-THIEUTH;@F900
aCJK COMPATIBILITY IDEOGRAPH-F900;cIDEOGRAPH-F901;cIDEOGRAPH-F902;cIDEOGRAPH-F903;cIDEOGRAPH-F904
cIDEOGRAPH-F905;cIDEOGRAPH-F906;cIDEOGRAPH-F907;cIDEOGRAPH-F908;cIDEOGRAPH-F909;cIDEOGRAPH-F90A
cIDEOGRAPH-F90B;cIDEOGRAPH-F90C;cIDEOGRAPH-F90D;cIDEOGRAPH-F90E;cIDEOGRAPH-F90F;cIDEOGRAPH-F910
cIDEOGRAPH-F911;cIDEOGRAPH-F912;cIDEOGRAPH-F913;cIDEOGRAPH-F914;cIDEOGRAPH-F915;cIDEOGRAPH-F916
cIDEOGRAPH-F917;cIDEOGRAPH-F918;cIDEOGRAPH-F919;cIDEOGRAPH-F91A;cIDEOGRAPH-F91B;cIDEOGRAPH-F91C
cIDEOGRAPH-F91D;cIDEOGRAPH-F91E;cIDEOGRAPH-F91F;cIDEOGRAPH-F920;cIDEOGRAPH-F921;cIDEOGRAPH-F922
cIDEOGRAPH-F923;cIDEOGRAPH-F924;cIDEOGRAPH-F925;cIDEOGRAPH-F926;cIDEOGRAPH-F927;cIDEOGRAPH-F928
cIDEOGRAPH-F929;cIDEOGRAPH-F92A;cIDEOGRAPH-F92B;cIDEOGRAPH-F92C;cIDEOGRAPH-F92D;cIDEOGRAPH-F92E
cIDEOGRAPH-F92F;cIDEOGRAPH-F930;cIDEOGRAPH-F931;cIDEOGRAPH-F932;cIDEOGRAPH-F933;cIDEOGRAPH-F934
cIDEOGRAPH-F935;cIDEOGRAPH-F936;cIDEOGRAPH-F937;cIDEOGRAPH-F938;cIDEOGRAPH-F939;cIDEOGRAPH-F93A
cIDEOGRAPH-F93B;cIDEOGRAPH-F93C;cIDEOGRAPH-F93D;cIDEOGRAPH-F93E;cIDEOGRAPH-F93F;cIDEOGRAPH-F940
cIDEOGRAPH-F941;cIDEOGRAPH-F942;cIDEOGRAPH-F943;cIDEOGRAPH-F944;cIDEOGRAPH-F945;cIDEOGRAPH-F946
cIDEOGRAPH-F947;cIDEOGRAPH-F948;cIDEOGRAPH-F949;cIDEOGRAPH-F94A;cIDEOGRAPH-F94B;cIDEOGRAPH-F94C
cIDEOGRAPH-F94D;cIDEOGRAPH-F94E;cIDEOGRAPH-F94F;cIDEOGRAPH-F950;cIDEOGRAPH-F951;cIDEOGRAPH-F952
cIDEOGRAPH-F953;cIDEOGRAPH-F954;cIDEOGRAPH-F955;cIDEOGRAPH-F956;cIDEOGRAPH-F957;cIDEOGRAPH-F958
cIDEOGRAPH-F959;cIDEOGRAPH-F95A;cIDEOGRAPH-F95B;cIDEOGRAPH-F95C;cIDEOGRAPH-F95D;cIDEOGRAPH-F95E
cIDEOGRAPH-F95F;cIDEOGRAPH-F960;cIDEOGRAPH-F961;cIDEOGRAPH-F962;cIDEOGRAPH-F963;cIDEOGRAPH-F964
cIDEOGRAPH-F965;cIDEOGRAPH-F966;cIDEOGRAPH-F967;cIDEOGRAPH-F968;cIDEOGRAPH-F969;cIDEOGRAPH-F96A
cIDEOGRAPH-F96B;cIDEOGRAPH-F96C;cIDEOGRAPH-F96D;cIDEOGRAPH-F96E;cIDEOGRAPH-F96F;cIDEOGRAPH-F970
cIDEOGRAPH-F971;cIDEOGRAPH-F972;cIDEOGRAPH-F973;cIDEOGRAPH-F974;cIDEOGRAPH-F975;cIDEOGRAPH-F976
cIDEOGRAPH-F977;cIDEOGRAPH-F978;cIDEOGRAPH-F979;cIDEOGRAPH-F97A;cIDEOGRAPH-F97B;cIDEOGRAPH-F97C
cIDEOGRAPH-F97D;cIDEOGRAPH-F97E;cIDEOGRAPH-F97F;cIDEOGRAPH-F980;cIDEOGRAPH-F981;cIDEOGRAPH-F982
cIDEOGRAPH-F983;cIDEOGRAPH-F984;cIDEOGRAPH-F985;cIDEOGRAPH-F986;cIDEOGRAPH-F987;cIDEOGRAPH-F988
cIDEOGRAPH-F989;cIDEOGRAPH-F98A;cIDEOGRAPH-F98B;cIDEOGRAPH-F98C;cIDEOGRAPH-F98D;cIDEOGRAPH-F98E
cIDEOGRAPH-F98F;cIDEOGRAPH-F990;cIDEOGRAPH-F991;cIDEOGRAPH-F992;cIDEOGRAPH-F993;cIDEOGRAPH-F994
cIDEOGRAPH-F995;cIDEOGRAPH-F996;cIDEOGRAPH-F997;cIDEOGRAPH-F998;cIDEOGRAPH-F999;cIDEOGRAPH-F99A
cIDEOGRAPH-F99B;cIDEOGRAPH-F99C;cIDEOGRAPH-F99D;cIDEOGRAPH-F99E;cIDEOGRAPH-F99F;cIDEOGRAPH-F9A0
cIDEOGRAPH-F9A1;cIDEOGRAPH-F9A2;cIDEOGRAPH-F9A3;cIDEOGRAPH-F9A4;cIDEOGRAPH-F9A5;cIDEOGRAPH-F9A6
cIDEOGRAPH-F9A7;cIDEOGRAPH-F9A8;cIDEOGRAPH-F9A9;cIDEOGRAPH-F9AA;cIDEOGRAPH-F9AB;cIDEOGRAPH-F9AC
cIDEOGRAPH-F9AD;cIDEOGRAPH-F9AE;cIDEOGRAPH-F9AF;cIDEOGRAPH-F9B0;cIDEOGRAPH-F9B1;cIDEOGRAPH-F9B2
cIDEOGRAPH-F9B3;cIDEOGRAPH-F9B4;cIDEOGRAPH-F9B5;cIDEOGRAPH-F9B6;cIDEOGRAPH-F9B7;cIDEOGRAPH-F9B8
cIDEOGRAPH-F9B9;cIDEOGRAPH-F9BA;cIDEOGRAPH-F9BB;cIDEOGRAPH-F9BC;cIDEOGRAPH-F9BD;cIDEOGRAPH-F9BE
cIDEOGRAPH-F9BF;cIDEOGRAPH-F9C0;cIDEOGRAPH-F9C1;cIDEOGRAPH-F9C2;cIDEOGRAPH-F9C3;cIDEOGRAPH-F9C4
cIDEOGRAPH-F9C5;cIDEOGRAPH-F9C6;cIDEOGRAPH-F9C7;cIDEOGRAPH-F9C8;cIDEOGRAPH-F9C9;cIDEOGRAPH-F9CA
cIDEOGRAPH-F9CB;cIDEOGRAPH-F9CC;cIDEOGRAPH-F9CD;cIDEOGRAPH-F9CE;cIDEOGRAPH-F9CF;cIDEOGRAPH-F9D0
cIDEOGRAPH-F9D1;cIDEOGRAPH-F9D2;cIDEOGRAPH-F9D3;cIDEOGRAPH-F9D4;cIDEOGRAPH-F9D5;cIDEOGRAPH-F9D6
cIDEOGRAPH-F9D7;cIDEOGRAPH-F9D8;cIDEOGRAPH-F9D9;cIDEOGRAPH-F9DA;cIDEOGRAPH-F9DB;cIDEOGRAPH-F9DC
cIDEOGRAPH-F9DD;cIDEOGRAPH-F9DE;cIDEOGRAPH-F9DF;cIDEOGRAPH-F9E0;cIDEOGRAPH-F9E1;cIDEOGRAPH-F9E2
cIDEOGRAPH-F9E3;cIDEOGRAPH-F9E4;cIDEOGRAPH-F9E5;cIDEOGRAPH-F9E6;cIDEOGRAPH-F9E7;cIDEOGRAPH-F9E8
cIDEOGRAPH-F9E9;cIDEOGRAPH-F9EA;cIDEOGRAPH-F9EB;cIDEOGRAPH-F9EC;cIDEOGRAPH-F9ED;cIDEOGRAPH-F9EE
cIDEOGRAPH-F9EF;cIDEOGRAPH-F9F0;cIDEOGRAPH-F9F1;cIDEOGRAPH-F9F2;cIDEOGRAPH-F9F3;cIDEOGRAPH-F9F4
cIDEOGRAPH-F9F5;cIDEOGRAPH-F9F6;cIDEOGRAPH-F9F7;cIDEOGRAPH-F9F8;cIDEOGRAPH-F9F9;cIDEOGRAPH-F9FA
cIDEOGRAPH-F9FB;cIDEOGRAPH-F9FC;cIDEOGRAPH-F9FD;cIDEOGRAPH-F9FE;cIDEOGRAPH-F9FF;cIDEOGRAPH-FA00
cIDEOGRAPH-FA01;cIDEOGRAPH-FA02;cIDEOGRAPH-FA03;cIDEOGRAPH-FA04;cIDEOGRAPH-FA05;cIDEOGRAPH-FA06
cIDEOGRAPH-FA07;cIDEOGRAPH-FA08;cIDEOGRAPH-FA09;cIDEOGRAPH-FA0A;cIDEOGRAPH-FA0B;cIDEOGRAPH-FA0C
cIDEOGRAPH-FA0D;cIDEOGRAPH-FA0E;cIDEOGRAPH-FA0F;cIDEOGRAPH-FA10;cIDEOGRAPH-FA11;cIDEOGRAPH-FA12
cIDEOGRAPH-FA13;cIDEOGRAPH-FA14;cIDEOGRAPH-FA15;cIDEOGRAPH-FA16;cIDEOGRAPH-FA17;cIDEOGRAPH-FA18
cIDEOGRAPH-FA19;cIDEOGRAPH-FA1A;cIDEOGRAPH-FA1B;cIDEOGRAPH-FA1C;cIDEOGRAPH-FA1D;cIDEOGRAPH-FA1E
cIDEOGRAPH-FA1F;cIDEOGRAPH-FA20;cIDEOGRAPH-FA21;cIDEOGRAPH-FA22;cIDEOGRAPH-FA23;cIDEOGRAPH-FA24
cIDEOGRAPH-FA25;cIDEOGRAPH-FA26;cIDEOGRAPH-FA27;cIDEOGRAPH-FA28;cIDEOGRAPH-FA29;cIDEOGRAPH-FA2A
cIDEOGRAPH-FA2B;cIDEOGRAPH-FA2C;cIDEOGRAPH-FA2D;cIDEOGRAPH-FA2E;cIDEOGRAPH-FA2F;cIDEOGRAPH-FA30
cIDEOGRAPH-FA31;cIDEOGRAPH-FA32;cIDEOGRAPH-FA33;cIDEOGRAPH-FA34;cIDEOGRAPH-FA35;cIDEOGRAPH-FA36
cIDEOGRAPH-FA37;cIDEOGRAPH-FA38;cIDEOGRAPH-FA39;cIDEOGRAPH-FA3A;cIDEOGRAPH-FA3B;cIDEOGRAPH-FA3C
cIDEOGRAPH-FA3D;cIDEOGRAPH-FA3E;cIDEOGRAPH-FA3F;cIDEOGRAPH-FA40;cIDEOGRAPH-FA41;cIDEOGRAPH-FA42
cIDEOGRAPH-FA43;cIDEOGRAPH-FA44;cIDEOGRAPH-FA45;cIDEOGRAPH-FA46;cIDEOGRAPH-FA47;cIDEOGRAPH-FA48
cIDEOGRAPH-FA49;cIDEOGRAPH-FA4A;cIDEOGRAPH-FA4B;cIDEOGRAPH-FA4C;cIDEOGRAPH-FA4D;cIDEOGRAPH-FA4E
cIDEOGRAPH-FA4F;cIDEOGRAPH-FA50;cIDEOGRAPH-FA51;cIDEOGRAPH-FA52;cIDEOGRAPH-FA53;cIDEOGRAPH-FA54
cIDEOGRAPH-FA55;cIDEOGRAPH-FA56;cIDEOGRAPH-FA57;cIDEOGRAPH-FA58;cIDEOGRAPH-FA59;cIDEOGRAPH-FA5A
cIDEOGRAPH-FA5B;cIDEOGRAPH-FA5C;cIDEOGRAPH-FA5D;cIDEOGRAPH-FA5E;cIDEOGRAPH-FA5F;cIDEOGRAPH-FA60
cIDEOGRAPH-FA61;cIDEOGRAPH-FA62;cIDEOGRAPH-FA63;cIDEOGRAPH-FA64;cIDEOGRAPH-FA65;cIDEOGRAPH-FA66
cIDEOGRAPH-FA67;cIDEOGRAPH-FA68;cIDEOGRAPH-FA69;cIDEOGRAPH-FA6A;cIDEOGRAPH-FA6B;cIDEOGRAPH-FA6C
cIDEOGRAPH-FA6D;@FA70;cIDEOGRAPH-FA70;cIDEOGRAPH-FA71;cIDEOGRAPH-FA72;cIDEOGRAPH-FA73
cIDEOGRAPH-FA74;cIDEOGRAPH-FA75;cIDEOGRAPH-FA76;cIDEOGRAPH-FA77;cIDEOGRAPH-FA78;cIDEOGRAPH-FA79
cIDEOGRAPH-FA7A;cIDEOGRAPH-FA7B;cIDEOGRAPH-FA7C;cIDEOGRAPH-FA7D;cIDEOGRAPH-FA7E;cIDEOGRAPH-FA7F
cIDEOGRAPH-FA80;cIDEOGRAPH-FA81;cIDEOGRAPH-FA82;cIDEOGRAPH-FA83;cIDEOGRAPH-FA84;cIDEOGRAPH-FA85
cIDEOGRAPH-FA86;cIDEOGRAPH-FA87;cIDEOGRAPH-FA88;cIDEOGRAPH-FA89;cIDEOGRAPH-FA8A;cIDEOGRAPH-FA8B
cIDEOGRAPH-FA8C;cIDEOGRAPH-FA8D;cIDEOGRAPH-FA8E;cIDEOGRAPH-FA8F;cIDEOGRAPH-FA90;cIDEOGRAPH-FA91
cIDEOGRAPH-FA92;cIDEOGRAPH-FA93;cIDEOGRAPH-FA94;cIDEOGRAPH-FA95;cIDEOGRAPH-FA96;cIDEOGRAPH-FA97
cIDEOGRAPH-FA98;cIDEOGRAPH-FA99;cIDEOGRAPH-FA9A;cIDEOGRAPH-FA9B;cIDEOGRAPH-FA9C;cIDEOGRAPH-FA9D
cIDEOGRAPH-FA9E;cIDEOGRAPH-FA9F;cIDEOGRAPH-FAA0;cIDEOGRAPH-FAA1;cIDEOGRAPH-FAA2;cIDEOGRAPH-FAA3
cIDEOGRAPH-FAA4;cIDEOGRAPH-FAA5;cIDEOGRAPH-FAA6;cIDEOGRAPH-FAA7;cIDEOGRAPH-FAA8;cIDEOGRAPH-FAA9
cIDEOGRAPH-FAAA;cIDEOGRAPH-FAAB;cIDEOGRAPH-FAAC;cIDEOGRAPH-FAAD;cIDEOGRAPH-FAAE;cIDEOGRAPH-FAAF
cIDEOGRAPH-FAB0;cIDEOGRAPH-FAB1;cIDEOGRAPH-FAB2;cIDEOGRAPH-FAB3;cIDEOGRAPH-FAB4;cIDEOGRAPH-FAB5
cIDEOGRAPH-FAB6;cIDEOGRAPH-FAB7;cIDEOGRAPH-FAB8;cIDEOGRAPH-FAB9;cIDEOGRAPH-FABA;cIDEOGRAPH-FABB
cIDEOGRAPH-FABC;cIDEOGRAPH-FABD;cIDEOGRAPH-FABE;cIDEOGRAPH-FABF;cIDEOGRAPH-FAC0;cIDEOGRAPH-FAC1
cIDEOGRAPH-FAC2;cIDEOGRAPH-FAC3;cIDEOGRAPH-FAC4;cIDEOGRAPH-FAC5;cIDEOGRAPH-FAC6;cIDEOGRAPH-FAC7
cIDEOGRAPH-FAC8;cIDEOGRAPH-FAC9;cIDEOGRAPH-FACA;cIDEOGRAPH-FACB;cIDEOGRAPH-FACC;cIDEOGRAPH-FACD
cIDEOGRAPH-FACE;cIDEOGRAPH-FACF;cIDEOGRAPH-FAD0;cIDEOGRAPH-FAD1;cIDEOGRAPH-FAD2;cIDEOGRAPH-FAD3
cIDEOGRAPH-FAD4;cIDEOGRAPH-FAD5;cIDEOGRAPH-FAD6;cIDEOGRAPH-FAD7;cIDEOGRAPH-FAD8;cIDEOGRAPH-FAD9
@FB00;aLATIN SMALL LIGATURE FF;dFI;dFL;dFFI;dFFL;dLONG S T;dST;@FB13
aARMENIAN SMALL LIGATURE MEN NOW;eECH;eINI;dVEW NOW;dMEN XEH;@FB1D;aHEBREW LETTER YOD WITH HIRIQ
bPOINT JUDEO-SPANISH VARIKA;bLIGATURE YIDDISH YOD YOD PATAH;bLETTER ALTERNATIVE AYIN;cWIDE ALEF
dDALET;dHE;dKAF;dLAMED;dFINAL MEM;dRESH;dTAV;cALTERNATIVE PLUS SIGN;cSHIN WITH SHIN DOT;eSIN DOT
eDAGESH AND SHIN DOT;gSIN DOT;cALEF WITH PATAH;eQAMATS;eMAPIQ;cBET WITH DAGESH;cGIMEL WITH DAGESH
cDALET WITH DAGESH;cHE WITH MAPIQ;cVAV WITH DAGESH;cZAYIN WITH DAGESH;@FB38;cTET WITH DAGESH
cYOD WITH DAGESH;cFINAL KAF WITH DAGESH;cKAF WITH DAGESH;cLAMED WITH DAGESH;@FB3E;cMEM WITH DAGESH
@FB40;cNUN WITH DAGESH;cSAMEKH WITH DAGESH;@FB43;cFINAL PE WITH DAGESH;cPE WITH DAGESH;@FB46
cTSADI WITH DAGESH;cQOF WITH DAGESH;cRESH WITH DAGESH;cSHIN WITH DAGESH;cTAV WITH DAGESH
cVAV WITH HOLAM;cBET WITH RAFE;cKAF WITH RAFE;cPE WITH RAFE;bLIGATURE ALEF LAMED
aARABIC LETTER ALEF WASLA ISOLATED FORM;eFINAL FORM;cBEEH ISOLATED FORM;dFINAL FORM;dINITIAL FORM
dMEDIAL FORM;cPEH ISOLATED FORM;dFINAL FORM;dINITIAL FORM;dMEDIAL FORM;cBEHEH ISOLATED FORM
dFINAL FORM;dINITIAL FORM;dMEDIAL FORM;cTTEHEH ISOLATED FORM;dFINAL FORM;dINITIAL FORM
dMEDIAL FORM;cTEHEH ISOLATED FORM;dFINAL FORM;dINITIAL FORM;dMEDIAL FORM;cTTEH ISOLATED FORM
dFINAL FORM;dINITIAL FORM;dMEDIAL FORM;cVEH ISOLATED FORM;dFINAL FORM;dINITIAL FORM;dMEDIAL FORM
cPEHEH ISOLATED FORM;dFINAL FORM;dINITIAL FORM;dMEDIAL FORM;cDYEH ISOLATED FORM;dFINAL FORM
dINITIAL FORM;dMEDIAL FORM;cNYEH ISOLATED FORM;dFINAL FORM;dINITIAL FORM;dMEDIAL FORM
cTCHEH ISOLATED FORM;dFINAL FORM;dINITIAL FORM;dMEDIAL FORM;cTCHEHEH ISOLATED FORM;dFINAL FORM
dINITIAL FORM;dMEDIAL FORM;cDDAHAL ISOLATED FORM;dFINAL FORM;cDAHAL ISOLATED FORM;dFINAL FORM
cDUL ISOLATED FORM;dFINAL FORM;cDDAL ISOLATED FORM;dFINAL FORM;cJEH ISOLATED FORM;dFINAL FORM
cRREH ISOLATED FORM;dFINAL FORM;cKEHEH ISOLATED FORM;dFINAL FORM;dINITIAL FORM;dMEDIAL FORM
cGAF ISOLATED FORM;dFINAL FORM;dINITIAL FORM;dMEDIAL FORM;cGUEH ISOLATED FORM;dFINAL FORM
dINITIAL FORM;dMEDIAL FORM;cNGOEH ISOLATED FORM;dFINAL FORM;dINITIAL FORM;dMEDIAL FORM
cNOON GHUNNA ISOLATED FORM;eFINAL FORM;cRNOON ISOLATED FORM;dFINAL FORM;dINITIAL FORM;dMEDIAL FORM
cHEH WITH YEH ABOVE ISOLATED FORM;gFINAL FORM;dGOAL ISOLATED FORM;eFINAL FORM;eINITIAL FORM
eMEDIAL FORM;dDOACHASHMEE ISOLATED FORM;eFINAL FORM;eINITIAL FORM;eMEDIAL FORM
cYEH BARREE ISOLATED FORM;eFINAL FORM;eWITH HAMZA ABOVE ISOLATED FORM;hFINAL FORM
bSYMBOL DOT ABOVE;dBELOW;cTWO DOTS ABOVE;eBELOW;cTHREE DOTS ABOVE;eBELOW;ePOINTING DOWNWARDS ABOVE
gBELOW;cFOUR DOTS ABOVE;eBELOW;cDOUBLE VERTICAL BAR BELOW;cTWO DOTS VERTICALLY ABOVE;fBELOW;cRING
cSMALL TAH ABOVE;eBELOW;cWASLA ABOVE;@FBD3;bLETTER NG ISOLATED FORM;dFINAL FORM;dINITIAL FORM
dMEDIAL FORM;cU ISOLATED FORM;dFINAL FORM;cOE ISOLATED FORM;dFINAL FORM;cYU ISOLATED FORM
dFINAL FORM;cU WITH HAMZA ABOVE ISOLATED FORM;cVE ISOLATED FORM;dFINAL FORM
cKIRGHIZ OE ISOLATED FORM;eFINAL FORM;dYU ISOLATED FORM;eFINAL FORM;cE ISOLATED FORM;dFINAL FORM
dINITIAL FORM;dMEDIAL FORM;cUIGHUR KAZAKH KIRGHIZ ALEF MAKSURA INITIAL FORM;hMEDIAL FORM
bLIGATURE YEH WITH HAMZA ABOVE WITH ALEF ISOLATED FORM;iFINAL FORM;hAE ISOLATED FORM;iFINAL FORM
hWAW ISOLATED FORM;iFINAL FORM;hU ISOLATED FORM;iFINAL FORM;hOE ISOLATED FORM;iFINAL FORM
hYU ISOLATED FORM;iFINAL FORM;hE ISOLATED FORM;iFINAL FORM;iINITIAL FORM
cUIGHUR KIRGHIZ YEH WITH HAMZA ABOVE WITH ALEF MAKSURA ISOLATED FORM;lFINAL FORM;lINITIAL FORM
bLETTER FARSI YEH ISOLATED FORM;eFINAL FORM;eINITIAL FORM;eMEDIAL FORM
bLIGATURE YEH WITH HAMZA ABOVE WITH JEEM ISOLATED FORM;hHAH ISOLATED FORM;hMEEM ISOLATED FORM
hALEF MAKSURA ISOLATED FORM;hYEH ISOLATED FORM;cBEH WITH JEEM ISOLATED FORM;eHAH ISOLATED FORM
eKHAH ISOLATED FORM;eMEEM ISOLATED FORM;eALEF MAKSURA ISOLATED FORM;eYEH ISOLATED FORM
cTEH WITH JEEM ISOLATED FORM;eHAH ISOLATED FORM;eKHAH ISOLATED FORM;eMEEM ISOLATED FORM
eALEF MAKSURA ISOLATED FORM;eYEH ISOLATED FORM;cTHEH WITH JEEM ISOLATED FORM;eMEEM ISOLATED FORM
eALEF MAKSURA ISOLATED FORM;eYEH ISOLATED FORM;cJEEM WITH HAH ISOLATED FORM;eMEEM ISOLATED FORM
cHAH WITH JEEM ISOLATED FORM;eMEEM ISOLATED FORM;cKHAH WITH JEEM ISOLATED FORM;eHAH ISOLATED FORM
eMEEM ISOLATED FORM;cSEEN WITH JEEM ISOLATED FORM;eHAH ISOLATED FORM;eKHAH ISOLATED FORM
eMEEM ISOLATED FORM;cSAD WITH HAH ISOLATED FORM;eMEEM ISOLATED FORM;cDAD WITH JEEM ISOLATED FORM
eHAH ISOLATED FORM;eKHAH ISOLATED FORM;eMEEM ISOLATED FORM;cTAH WITH HAH ISOLATED FORM
eMEEM ISOLATED FORM;cZAH WITH MEEM ISOLATED FORM;cAIN WITH JEEM ISOLATED FORM;eMEEM ISOLATED FORM
cGHAIN WITH JEEM ISOLATED FORM;eMEEM ISOLATED FORM;cFEH WITH JEEM ISOLATED FORM;eHAH ISOLATED FORM
eKHAH ISOLATED FORM;eMEEM ISOLATED FORM;eALEF MAKSURA ISOLATED FORM;eYEH ISOLATED FORM
cQAF WITH HAH ISOLATED FORM;eMEEM ISOLATED FORM;eALEF MAKSURA ISOLATED FORM;eYEH ISOLATED FORM
cKAF WITH ALEF ISOLATED FORM;eJEEM ISOLATED FORM;eHAH ISOLATED FORM;eKHAH ISOLATED FORM
eLAM ISOLATED FORM;eMEEM ISOLATED FORM;eALEF MAKSURA ISOLATED FORM;eYEH ISOLATED FORM
cLAM WITH JEEM ISOLATED FORM;eHAH ISOLATED FORM;eKHAH ISOLATED FORM;eMEEM ISOLATED FORM
eALEF MAKSURA ISOLATED FORM;eYEH ISOLATED FORM;cMEEM WITH JEEM ISOLATED FORM;eHAH ISOLATED FORM
eKHAH ISOLATED FORM;eMEEM ISOLATED FORM;eALEF MAKSURA ISOLATED FORM;eYEH ISOLATED FORM
cNOON WITH JEEM ISOLATED FORM;eHAH ISOLATED FORM;eKHAH ISOLATED FORM;eMEEM ISOLATED FORM
eALEF MAKSURA ISOLATED FORM;eYEH ISOLATED FORM;cHEH WITH JEEM ISOLATED FORM;eMEEM ISOLATED FORM
eALEF MAKSURA ISOLATED FORM;eYEH ISOLATED FORM;cYEH WITH JEEM ISOLATED FORM;eHAH ISOLATED FORM
eKHAH ISOLATED FORM;eMEEM ISOLATED FORM;eALEF MAKSURA ISOLATED FORM;eYEH ISOLATED FORM
cTHAL WITH SUPERSCRIPT ALEF ISOLATED FORM;cREH WITH SUPERSCRIPT ALEF ISOLATED FORM
cALEF MAKSURA WITH SUPERSCRIPT ALEF ISOLATED FORM;cSHADDA WITH DAMMATAN ISOLATED FORM
eKASRATAN ISOLATED FORM;eFATHA ISOLATED FORM;eDAMMA ISOLATED FORM;eKASRA ISOLATED FORM
eSUPERSCRIPT ALEF ISOLATED FORM;cYEH WITH HAMZA ABOVE WITH REH FINAL FORM;hZAIN FINAL FORM
hMEEM FINAL FORM;hNOON FINAL FORM;hALEF MAKSURA FINAL FORM;hYEH FINAL FORM
cBEH WITH REH FINAL FORM;eZAIN FINAL FORM;eMEEM FINAL FORM;eNOON FINAL FORM
eALEF MAKSURA FINAL FORM;eYEH FINAL FORM;cTEH WITH REH FINAL FORM;eZAIN FINAL FORM
eMEEM FINAL FORM;eNOON FINAL FORM;eALEF MAKSURA FINAL FORM;eYEH FINAL FORM
cTHEH WITH REH FINAL FORM;eZAIN FINAL FORM;eMEEM FINAL FORM;eNOON FINAL FORM
eALEF MAKSURA FINAL FORM;eYEH FINAL FORM;cFEH WITH ALEF MAKSURA FINAL FORM;eYEH FINAL FORM
cQAF WITH ALEF MAKSURA FINAL FORM;eYEH FINAL FORM;cKAF WITH ALEF FINAL FORM;eLAM FINAL FORM
eMEEM FINAL FORM;eALEF MAKSURA FINAL FORM;eYEH FINAL FORM;cLAM WITH MEEM FINAL FORM
eALEF MAKSURA FINAL FORM;eYEH FINAL FORM;cMEEM WITH ALEF FINAL FORM;eMEEM FINAL FORM
cNOON WITH REH FINAL FORM;eZAIN FINAL FORM;eMEEM FINAL FORM;eNOON FINAL FORM
eALEF MAKSURA FINAL FORM;eYEH FINAL FORM;cALEF MAKSURA WITH SUPERSCRIPT ALEF FINAL FORM
cYEH WITH REH FINAL FORM;eZAIN FINAL FORM;eMEEM FINAL FORM;eNOON FINAL FORM
eALEF MAKSURA FINAL FORM;eYEH FINAL FORM;eHAMZA ABOVE WITH JEEM INITIAL FORM;hHAH INITIAL FORM
hKHAH INITIAL FORM;hMEEM INITIAL FORM;hHEH INITIAL FORM;cBEH WITH JEEM INITIAL FORM
eHAH INITIAL FORM;eKHAH INITIAL FORM;eMEEM INITIAL FORM;eHEH INITIAL FORM
cTEH WITH JEEM INITIAL FORM;eHAH INITIAL FORM;eKHAH INITIAL FORM;eMEEM INITIAL FORM
eHEH INITIAL FORM;cTHEH WITH MEEM INITIAL FORM;cJEEM WITH HAH INITIAL FORM;eMEEM INITIAL FORM
cHAH WITH JEEM INITIAL FORM;eMEEM INITIAL FORM;cKHAH WITH JEEM INITIAL FORM;eMEEM INITIAL FORM
cSEEN WITH JEEM INITIAL FORM;eHAH INITIAL FORM;eKHAH INITIAL FORM;eMEEM INITIAL FORM
cSAD WITH HAH INITIAL FORM;eKHAH INITIAL FORM;eMEEM INITIAL FORM;cDAD WITH JEEM INITIAL FORM
eHAH INITIAL FORM;eKHAH INITIAL FORM;eMEEM INITIAL FORM;cTAH WITH HAH INITIAL FORM
cZAH WITH MEEM INITIAL FORM;cAIN WITH JEEM INITIAL FORM;eMEEM INITIAL FORM
cGHAIN WITH JEEM INITIAL FORM;eMEEM INITIAL FORM;cFEH WITH JEEM INITIAL FORM;eHAH INITIAL FORM
eKHAH INITIAL FORM;eMEEM INITIAL FORM;cQAF WITH HAH INITIAL FORM;eMEEM INITIAL FORM
cKAF WITH JEEM INITIAL FORM;eHAH INITIAL FORM;eKHAH INITIAL FORM;eLAM INITIAL FORM
eMEEM INITIAL FORM;cLAM WITH JEEM INITIAL FORM;eHAH INITIAL FORM;eKHAH INITIAL FORM
eMEEM INITIAL FORM;eHEH INITIAL FORM;cMEEM WITH JEEM INITIAL FORM;eHAH INITIAL FORM
eKHAH INITIAL FORM;eMEEM INITIAL FORM;cNOON WITH JEEM INITIAL FORM;eHAH INITIAL FORM
eKHAH INITIAL FORM;eMEEM INITIAL FORM;eHEH INITIAL FORM;cHEH WITH JEEM INITIAL FORM
eMEEM INITIAL FORM;eSUPERSCRIPT ALEF INITIAL FORM;cYEH WITH JEEM INITIAL FORM;eHAH INITIAL FORM
eKHAH INITIAL FORM;eMEEM INITIAL FORM;eHEH INITIAL FORM;eHAMZA ABOVE WITH MEEM MEDIAL FORM
hHEH MEDIAL FORM;cBEH WITH MEEM MEDIAL FORM;eHEH MEDIAL FORM;cTEH WITH MEEM MEDIAL FORM
eHEH MEDIAL FORM;cTHEH WITH MEEM MEDIAL FORM;eHEH MEDIAL FORM;cSEEN WITH MEEM MEDIAL FORM
eHEH MEDIAL FORM;cSHEEN WITH MEEM MEDIAL FORM;eHEH MEDIAL FORM;cKAF WITH LAM MEDIAL FORM
eMEEM MEDIAL FORM;cLAM WITH MEEM MEDIAL FORM;cNOON WITH MEEM MEDIAL FORM;eHEH MEDIAL FORM
cYEH WITH MEEM MEDIAL FORM;eHEH MEDIAL FORM;cSHADDA WITH FATHA MEDIAL FORM;eDAMMA MEDIAL FORM
eKASRA MEDIAL FORM;cTAH WITH ALEF MAKSURA ISOLATED FORM;eYEH ISOLATED FORM
cAIN WITH ALEF MAKSURA ISOLATED FORM;eYEH ISOLATED FORM;cGHAIN WITH ALEF MAKSURA ISOLATED FORM
eYEH ISOLATED FORM;cSEEN WITH ALEF MAKSURA ISOLATED FORM;eYEH ISOLATED FORM
cSHEEN WITH ALEF MAKSURA ISOLATED FORM;eYEH ISOLATED FORM;cHAH WITH ALEF MAKSURA ISOLATED FORM
eYEH ISOLATED FORM;cJEEM WITH ALEF MAKSURA ISOLATED FORM;eYEH ISOLATED FORM
cKHAH WITH ALEF MAKSURA ISOLATED FORM;eYEH ISOLATED FORM;cSAD WITH ALEF MAKSURA ISOLATED FORM
eYEH ISOLATED FORM;cDAD WITH ALEF MAKSURA ISOLATED FORM;eYEH ISOLATED FORM
cSHEEN WITH JEEM ISOLATED FORM;eHAH ISOLATED FORM;eKHAH ISOLATED FORM;eMEEM ISOLATED FORM
eREH ISOLATED FORM;cSEEN WITH REH ISOLATED FORM;cSAD WITH REH ISOLATED FORM
cDAD WITH REH ISOLATED FORM;cTAH WITH ALEF MAKSURA FINAL FORM;eYEH FINAL FORM
cAIN WITH ALEF MAKSURA FINAL FORM;eYEH FINAL FORM;cGHAIN WITH ALEF MAKSURA FINAL FORM
eYEH FINAL FORM;cSEEN WITH ALEF MAKSURA FINAL FORM;eYEH FINAL FORM
cSHEEN WITH ALEF MAKSURA FINAL FORM;eYEH FINAL FORM;cHAH WITH ALEF MAKSURA FINAL FORM
eYEH FINAL FORM;cJEEM WITH ALEF MAKSURA FINAL FORM;eYEH FINAL FORM
cKHAH WITH ALEF MAKSURA FINAL FORM;eYEH FINAL FORM;cSAD WITH ALEF MAKSURA FINAL FORM
eYEH FINAL FORM;cDAD WITH ALEF MAKSURA FINAL FORM;eYEH FINAL FORM;cSHEEN WITH JEEM FINAL FORM
eHAH FINAL FORM;eKHAH FINAL FORM;eMEEM FINAL FORM;eREH FINAL FORM;cSEEN WITH REH FINAL FORM
cSAD WITH REH FINAL FORM;cDAD WITH REH FINAL FORM;cSHEEN WITH JEEM INITIAL FORM;eHAH INITIAL FORM
eKHAH INITIAL FORM;eMEEM INITIAL FORM;cSEEN WITH HEH INITIAL FORM;cSHEEN WITH HEH INITIAL FORM
cTAH WITH MEEM INITIAL FORM;cSEEN WITH JEEM MEDIAL FORM;eHAH MEDIAL FORM;eKHAH MEDIAL FORM
cSHEEN WITH JEEM MEDIAL FORM;eHAH MEDIAL FORM;eKHAH MEDIAL FORM;cTAH WITH MEEM MEDIAL FORM
cZAH WITH MEEM MEDIAL FORM;cALEF WITH FATHATAN FINAL FORM;fISOLATED FORM;aORNATE LEFT PARENTHESIS
bRIGHT PARENTHESIS;aARABIC LIGATURE RAHIMAHU ALLAAH;cRADI ALLAAHU ANH;eANHAA;eANHUM;eANHUMAA
eANHUNNA;cSALLALLAAHU ALAYHI WA-AALIH;cALAYHI AS-SALAAM;cALAYHIM AS-SALAAM;cALAYHIMAA AS-SALAAM
cALAYHI AS-SALAATU WAS-SALAAM;cQUDDISA SIRRAH;cSALLALLAHU ALAYHI WAAALIHEE WA-SALLAM
cALAYHAA AS-SALAAM;cTABAARAKA WA-TAAALAA;cRAHIMAHUM ALLAAH;cTEH WITH JEEM WITH MEEM INITIAL FORM
eHAH WITH JEEM FINAL FORM;hINITIAL FORM;gMEEM INITIAL FORM;eKHAH WITH MEEM INITIAL FORM
eMEEM WITH JEEM INITIAL FORM;gHAH INITIAL FORM;gKHAH INITIAL FORM
cJEEM WITH MEEM WITH HAH FINAL FORM;hINITIAL FORM;cHAH WITH MEEM WITH YEH FINAL FORM
gALEF MAKSURA FINAL FORM;cSEEN WITH HAH WITH JEEM INITIAL FORM;eJEEM WITH HAH INITIAL FORM
gALEF MAKSURA FINAL FORM;eMEEM WITH HAH FINAL FORM;hINITIAL FORM;gJEEM INITIAL FORM
gMEEM FINAL FORM;hINITIAL FORM;cSAD WITH HAH WITH HAH FINAL FORM;hINITIAL FORM
eMEEM WITH MEEM FINAL FORM;cSHEEN WITH HAH WITH MEEM FINAL FORM;hINITIAL FORM
eJEEM WITH YEH FINAL FORM;eMEEM WITH KHAH FINAL FORM;hINITIAL FORM;gMEEM FINAL FORM;hINITIAL FORM
cDAD WITH HAH WITH ALEF MAKSURA FINAL FORM;eKHAH WITH MEEM FINAL FORM;hINITIAL FORM
cTAH WITH MEEM WITH HAH FINAL FORM;hINITIAL FORM;gMEEM INITIAL FORM;gYEH FINAL FORM
cAIN WITH JEEM WITH MEEM FINAL FORM;eMEEM WITH MEEM FINAL FORM;hINITIAL FORM
gALEF MAKSURA FINAL FORM;cGHAIN WITH MEEM WITH MEEM FINAL FORM;gYEH FINAL FORM
gALEF MAKSURA FINAL FORM;cFEH WITH KHAH WITH MEEM FINAL FORM;hINITIAL FORM
cQAF WITH MEEM WITH HAH FINAL FORM;gMEEM FINAL FORM;cLAM WITH HAH WITH MEEM FINAL FORM
gYEH FINAL FORM;gALEF MAKSURA FINAL FORM;eJEEM WITH JEEM INITIAL FORM;hFINAL FORM
eKHAH WITH MEEM FINAL FORM;hINITIAL FORM;eMEEM WITH HAH FINAL FORM;hINITIAL FORM
cMEEM WITH HAH WITH JEEM INITIAL FORM;gMEEM INITIAL FORM;gYEH FINAL FORM
eJEEM WITH HAH INITIAL FORM;gMEEM INITIAL FORM;eKHAH WITH JEEM INITIAL FORM;gMEEM INITIAL FORM
@FD92;eJEEM WITH KHAH INITIAL FORM;cHEH WITH MEEM WITH JEEM INITIAL FORM;gMEEM INITIAL FORM
cNOON WITH HAH WITH MEEM INITIAL FORM;gALEF MAKSURA FINAL FORM;eJEEM WITH MEEM FINAL FORM
hINITIAL FORM;gALEF MAKSURA FINAL FORM;eMEEM WITH YEH FINAL FORM;gALEF MAKSURA FINAL FORM
cYEH WITH MEEM WITH MEEM FINAL FORM;hINITIAL FORM;cBEH WITH KHAH WITH YEH FINAL FORM
cTEH WITH JEEM WITH YEH FINAL FORM;gALEF MAKSURA FINAL FORM;eKHAH WITH YEH FINAL FORM
gALEF MAKSURA FINAL FORM;eMEEM WITH YEH FINAL FORM;gALEF MAKSURA FINAL FORM
cJEEM WITH MEEM WITH YEH FINAL FORM;eHAH WITH ALEF MAKSURA FINAL FORM
eMEEM WITH ALEF MAKSURA FINAL FORM;cSEEN WITH KHAH WITH ALEF MAKSURA FINAL FORM
cSAD WITH HAH WITH YEH FINAL FORM;cSHEEN WITH HAH WITH YEH FINAL FORM
cDAD WITH HAH WITH YEH FINAL FORM;cLAM WITH JEEM WITH YEH FINAL FORM;eMEEM WITH YEH FINAL FORM
cYEH WITH HAH WITH YEH FINAL FORM;eJEEM WITH YEH FINAL FORM;eMEEM WITH YEH FINAL FORM
cMEEM WITH MEEM WITH YEH FINAL FORM;cQAF WITH MEEM WITH YEH FINAL FORM
cNOON WITH HAH WITH YEH FINAL FORM;cQAF WITH MEEM WITH HAH INITIAL FORM
cLAM WITH HAH WITH MEEM INITIAL FORM;cAIN WITH MEEM WITH YEH FINAL FORM
cKAF WITH MEEM WITH YEH FINAL FORM;cNOON WITH JEEM WITH HAH INITIAL FORM
cMEEM WITH KHAH WITH YEH FINAL FORM;cLAM WITH JEEM WITH MEEM INITIAL FORM
cKAF WITH MEEM WITH MEEM FINAL FORM;cLAM WITH JEEM WITH MEEM FINAL FORM
cNOON WITH JEEM WITH HAH FINAL FORM;cJEEM WITH HAH WITH YEH FINAL FORM
cHAH WITH JEEM WITH YEH FINAL FORM;cMEEM WITH JEEM WITH YEH FINAL FORM
cFEH WITH MEEM WITH YEH FINAL FORM;cBEH WITH HAH WITH YEH FINAL FORM
cKAF WITH MEEM WITH MEEM INITIAL FORM;cAIN WITH JEEM WITH MEEM INITIAL FORM
cSAD WITH MEEM WITH MEEM INITIAL FORM;cSEEN WITH KHAH WITH YEH FINAL FORM
cNOON WITH JEEM WITH YEH FINAL FORM;@FDCF;cSALAAMUHU ALAYNAA;@FDF0
cSALLA USED AS KORANIC STOP SIGN ISOLATED FORM;cQALA USED AS KORANIC STOP SIGN ISOLATED FORM
cALLAH ISOLATED FORM;cAKBAR ISOLATED FORM;cMOHAMMAD ISOLATED FORM;cSALAM ISOLATED FORM
cRASOUL ISOLATED FORM;cALAYHE ISOLATED FORM;cWASALLAM ISOLATED FORM;cSALLA ISOLATED FORM
cSALLALLAHOU ALAYHE WASALLAM;cJALLAJALALOUHOU;aRIAL SIGN
aARABIC LIGATURE BISMILLAH AR-RAHMAN AR-RAHEEM;cSUBHAANAHU WA TAAALAA;cAZZA WA JALL
aVARIATION SELECTOR-1;bSELECTOR-2;bSELECTOR-3;bSELECTOR-4;bSELECTOR-5;bSELECTOR-6;bSELECTOR-7
bSELECTOR-8;bSELECTOR-9;bSELECTOR-10;bSELECTOR-11;bSELECTOR-12;bSELECTOR-13;bSELECTOR-14
bSELECTOR-15;bSELECTOR-16;aPRESENTATION FORM FOR VERTICAL COMMA;eIDEOGRAPHIC COMMA;fFULL STOP
eCOLON;eSEMICOLON;eEXCLAMATION MARK;eQUESTION MARK;eLEFT WHITE LENTICULAR BRACKET
eRIGHT WHITE LENTICULAR BRAKCET;eHORIZONTAL ELLIPSIS;@FE20;aCOMBINING LIGATURE LEFT HALF
cRIGHT HALF;bDOUBLE TILDE LEFT HALF;dRIGHT HALF;bMACRON LEFT HALF;cRIGHT HALF;bCONJOINING MACRON
bLIGATURE LEFT HALF BELOW;cRIGHT HALF BELOW;bTILDE LEFT HALF BELOW;cRIGHT HALF BELOW
bMACRON LEFT HALF BELOW;cRIGHT HALF BELOW;bCONJOINING MACRON BELOW;bCYRILLIC TITLO LEFT HALF
dRIGHT HALF;aPRESENTATION FORM FOR VERTICAL TWO DOT LEADER;eEM DASH;eEN DASH;eLOW LINE
eWAVY LOW LINE;eLEFT PARENTHESIS;eRIGHT PARENTHESIS;eLEFT CURLY BRACKET;eRIGHT CURLY BRACKET
eLEFT TORTOISE SHELL BRACKET;eRIGHT TORTOISE SHELL BRACKET;eLEFT BLACK LENTICULAR BRACKET
eRIGHT BLACK LENTICULAR BRACKET;eLEFT DOUBLE ANGLE BRACKET;eRIGHT DOUBLE ANGLE BRACKET
eLEFT ANGLE BRACKET;eRIGHT ANGLE BRACKET;eLEFT CORNER BRACKET;eRIGHT CORNER BRACKET
eLEFT WHITE CORNER BRACKET;eRIGHT WHITE CORNER BRACKET;aSESAME DOT;aWHITE SESAME DOT
aPRESENTATION FORM FOR VERTICAL LEFT SQUARE BRACKET;eRIGHT SQUARE BRACKET;aDASHED OVERLINE
aCENTRELINE OVERLINE;aWAVY OVERLINE;aDOUBLE WAVY OVERLINE;aDASHED LOW LINE;aCENTRELINE LOW LINE
aWAVY LOW LINE;aSMALL COMMA;bIDEOGRAPHIC COMMA;bFULL STOP;@FE54;bSEMICOLON;bCOLON;bQUESTION MARK
bEXCLAMATION MARK;bEM DASH;bLEFT PARENTHESIS;bRIGHT PARENTHESIS;bLEFT CURLY BRACKET
bRIGHT CURLY BRACKET;bLEFT TORTOISE SHELL BRACKET;bRIGHT TORTOISE SHELL BRACKET;bNUMBER SIGN
bAMPERSAND;bASTERISK;bPLUS SIGN;bHYPHEN-MINUS;bLESS-THAN SIGN;bGREATER-THAN SIGN;bEQUALS SIGN
@FE68;bREVERSE SOLIDUS;bDOLLAR SIGN;bPERCENT SIGN;bCOMMERCIAL AT;@FE70
aARABIC FATHATAN ISOLATED FORM;bTATWEEL WITH FATHATAN ABOVE;bDAMMATAN ISOLATED FORM;bTAIL FRAGMENT
bKASRATAN ISOLATED FORM;@FE76;bFATHA ISOLATED FORM;cMEDIAL FORM;bDAMMA ISOLATED FORM;cMEDIAL FORM
bKASRA ISOLATED FORM;cMEDIAL FORM;bSHADDA ISOLATED FORM;cMEDIAL FORM;bSUKUN ISOLATED FORM
cMEDIAL FORM;bLETTER HAMZA ISOLATED FORM;cALEF WITH MADDA ABOVE ISOLATED FORM;gFINAL FORM
eHAMZA ABOVE ISOLATED FORM;gFINAL FORM;cWAW WITH HAMZA ABOVE ISOLATED FORM;gFINAL FORM
cALEF WITH HAMZA BELOW ISOLATED FORM;gFINAL FORM;cYEH WITH HAMZA ABOVE ISOLATED FORM;gFINAL FORM
gINITIAL FORM;gMEDIAL FORM;cALEF ISOLATED FORM;dFINAL FORM;cBEH ISOLATED FORM;dFINAL FORM
dINITIAL FORM;dMEDIAL FORM;cTEH MARBUTA ISOLATED FORM;eFINAL FORM;dISOLATED FORM;dFINAL FORM
dINITIAL FORM;dMEDIAL FORM;cTHEH ISOLATED FORM;dFINAL FORM;dINITIAL FORM;dMEDIAL FORM
cJEEM ISOLATED FORM;dFINAL FORM;dINITIAL FORM;dMEDIAL FORM;cHAH ISOLATED FORM;dFINAL FORM
dINITIAL FORM;dMEDIAL FORM;cKHAH ISOLATED FORM;dFINAL FORM;dINITIAL FORM;dMEDIAL FORM
cDAL ISOLATED FORM;dFINAL FORM;cTHAL ISOLATED FORM;dFINAL FORM;cREH ISOLATED FORM;dFINAL FORM
cZAIN ISOLATED FORM;dFINAL FORM;cSEEN ISOLATED FORM;dFINAL FORM;dINITIAL FORM;dMEDIAL FORM
cSHEEN ISOLATED FORM;dFINAL FORM;dINITIAL FORM;dMEDIAL FORM;cSAD ISOLATED FORM;dFINAL FORM
dINITIAL FORM;dMEDIAL FORM;cDAD ISOLATED FORM;dFINAL FORM;dINITIAL FORM;dMEDIAL FORM
cTAH ISOLATED FORM;dFINAL FORM;dINITIAL FORM;dMEDIAL FORM;cZAH ISOLATED FORM;dFINAL FORM
dINITIAL FORM;dMEDIAL FORM;cAIN ISOLATED FORM;dFINAL FORM;dINITIAL FORM;dMEDIAL FORM
cGHAIN ISOLATED FORM;dFINAL FORM;dINITIAL FORM;dMEDIAL FORM;cFEH ISOLATED FORM;dFINAL FORM
dINITIAL FORM;dMEDIAL FORM;cQAF ISOLATED FORM;dFINAL FORM;dINITIAL FORM;dMEDIAL FORM
cKAF ISOLATED FORM;dFINAL FORM;dINITIAL FORM;dMEDIAL FORM;cLAM ISOLATED FORM;dFINAL FORM
dINITIAL FORM;dMEDIAL FORM;cMEEM ISOLATED FORM;dFINAL FORM;dINITIAL FORM;dMEDIAL FORM
cNOON ISOLATED FORM;dFINAL FORM;dINITIAL FORM;dMEDIAL FORM;cHEH ISOLATED FORM;dFINAL FORM
dINITIAL FORM;dMEDIAL FORM;cWAW ISOLATED FORM;dFINAL FORM;cALEF MAKSURA ISOLATED FORM;eFINAL FORM
cYEH ISOLATED FORM;dFINAL FORM;dINITIAL FORM;dMEDIAL FORM
bLIGATURE LAM WITH ALEF WITH MADDA ABOVE ISOLATED FORM;iFINAL FORM;gHAMZA ABOVE ISOLATED FORM
iFINAL FORM;hBELOW ISOLATED FORM;iFINAL FORM;fISOLATED FORM;fFINAL FORM;@FEFF
aZERO WIDTH NO-BREAK SPACE;@FF01;aFULLWIDTH EXCLAMATION MARK;bQUOTATION MARK;bNUMBER SIGN
bDOLLAR SIGN;bPERCENT SIGN;bAMPERSAND;bAPOSTROPHE;bLEFT PARENTHESIS;bRIGHT PARENTHESIS;bASTERISK
bPLUS SIGN;bCOMMA;bHYPHEN-MINUS;bFULL STOP;bSOLIDUS;bDIGIT ZERO;cONE;cTWO;cTHREE;cFOUR;cFIVE;cSIX
cSEVEN;cEIGHT;cNINE;bCOLON;bSEMICOLON;bLESS-THAN SIGN;bEQUALS SIGN;bGREATER-THAN SIGN
bQUESTION MARK;bCOMMERCIAL AT;bLATIN CAPITAL LETTER A;eB;eC;eD;eE;eF;eG;eH;eI;eJ;eK;eL;eM;eN;eO;eP
eQ;eR;eS;eT;eU;eV;eW;eX;eY;eZ;bLEFT SQUARE BRACKET;bREVERSE SOLIDUS;bRIGHT SQUARE BRACKET
bCIRCUMFLEX ACCENT;bLOW LINE;bGRAVE ACCENT;bLATIN SMALL LETTER A;eB;eC;eD;eE;eF;eG;eH;eI;eJ;eK;eL
eM;eN;eO;eP;eQ;eR;eS;eT;eU;eV;eW;eX;eY;eZ;bLEFT CURLY BRACKET;bVERTICAL LINE;bRIGHT CURLY BRACKET
bTILDE;bLEFT WHITE PARENTHESIS;bRIGHT WHITE PARENTHESIS;aHALFWIDTH IDEOGRAPHIC FULL STOP
bLEFT CORNER BRACKET;bRIGHT CORNER BRACKET;bIDEOGRAPHIC COMMA;bKATAKANA MIDDLE DOT;cLETTER WO
dSMALL A;eI;eU;eE;eO;eYA;eYU;eYO;eTU;bKATAKANA-HIRAGANA PROLONGED SOUND MARK;bKATAKANA LETTER A;dI
dU;dE;dO;dKA;dKI;dKU;dKE;dKO;dSA;dSI;dSU;dSE;dSO;dTA;dTI;dTU;dTE;dTO;dNA;dNI;dNU;dNE;dNO;dHA;dHI
dHU;dHE;dHO;dMA;dMI;dMU;dME;dMO;dYA;dYU;dYO;dRA;dRI;dRU;dRE;dRO;dWA;dN;cVOICED SOUND MARK
cSEMI-VOICED SOUND MARK;bHANGUL FILLER;cLETTER KIYEOK;dSSANGKIYEOK;dKIYEOK-SIOS;dNIEUN
dNIEUN-CIEUC;dNIEUN-HIEUH;dTIKEUT;dSSANGTIKEUT;dRIEUL;dRIEUL-KIYEOK;dRIEUL-MIEUM;dRIEUL-PIEUP
dRIEUL-SIOS;dRIEUL-THIEUTH;dRIEUL-PHIEUPH;dRIEUL-HIEUH;dMIEUM;dPIEUP;dSSANGPIEUP;dPIEUP-SIOS;dSIOS
dSSANGSIOS;dIEUNG;dCIEUC;dSSANGCIEUC;dCHIEUCH;dKHIEUKH;dTHIEUTH;dPHIEUPH;dHIEUH;@FFC2;dA;dAE;dYA
dYAE;dEO;dE;@FFCA;dYEO;dYE;dO;dWA;dWAE;dOE;@FFD2;dYO;dU;dWEO;dWE;dWI;dYU;@FFDA;dEU;dYI;dI;@FFE0
aFULLWIDTH CENT SIGN;bPOUND SIGN;bNOT SIGN;bMACRON;bBROKEN BAR;bYEN SIGN;bWON SIGN;@FFE8
aHALFWIDTH FORMS LIGHT VERTICAL;bLEFTWARDS ARROW;bUPWARDS ARROW;bRIGHTWARDS ARROW;bDOWNWARDS ARROW
bBLACK SQUARE;bWHITE CIRCLE;@FFF9;aINTERLINEAR ANNOTATION ANCHOR;cSEPARATOR;cTERMINATOR
aOBJECT REPLACEMENT CHARACTER;aREPLACEMENT CHARACTER;@10000;aLINEAR B SYLLABLE B008 A;dB038 E
dB028 I;dB061 O;dB010 U;dB001 DA;dB045 DE;dB007 DI;dB014 DO;dB051 DU;dB057 JA;dB046 JE;@1000D
dB036 JO;dB065 JU;dB077 KA;dB044 KE;dB067 KI;dB070 KO;dB081 KU;dB080 MA;dB013 ME;dB073 MI;dB015 MO
dB023 MU;dB006 NA;dB024 NE;dB030 NI;dB052 NO;dB055 NU;dB003 PA;dB072 PE;dB039 PI;dB011 PO;dB050 PU
dB016 QA;dB078 QE;dB021 QI;dB032 QO;@10028;dB060 RA;dB027 RE;dB053 RI;dB002 RO;dB026 RU;dB031 SA
dB009 SE;dB041 SI;dB012 SO;dB058 SU;dB059 TA;dB004 TE;dB037 TI;dB005 TO;dB069 TU;dB054 WA;dB075 WE
dB040 WI;dB042 WO;@1003C;dB017 ZA;dB074 ZE;@1003F;dB020 ZO;dB025 A2;dB043 A3;dB085 AU;dB071 DWE
dB090 DWO;dB048 NWA;dB029 PU2;dB062 PTE;dB076 RA2;dB033 RA3;dB068 RO2;dB066 TA2;dB087 TWE
dB091 TWO;@10050;cSYMBOL B018;dB019;dB022;dB034;dB047;dB049;dB056;dB063;dB064;dB079;dB082;dB083
dB086;dB089;@10080;cIDEOGRAM B100 MAN;dB102 WOMAN;dB104 DEER;dB105 EQUID;dB105F MARE
dB105M STALLION;dB106F EWE;dB106M RAM;dB107F SHE-GOAT;dB107M HE-GOAT;dB108F SOW;dB108M BOAR
dB109F COW;dB109M BULL;dB120 WHEAT;dB121 BARLEY;dB122 OLIVE;dB123 SPICE;dB125 CYPERUS
cMONOGRAM B127 KAPO;dB128 KANAKO;cIDEOGRAM B130 OIL;dB131 WINE;dB132;cMONOGRAM B133 AREPA
dB135 MERI;cIDEOGRAM B140 BRONZE;dB141 GOLD;dB142;dB145 WOOL;dB146;dB150;dB151 HORN;dB152;dB153
dB154;cMONOGRAM B156 TURO2;cIDEOGRAM B157;dB158;dB159 CLOTH;dB160;dB161;dB162 GARMENT;dB163 ARMOUR
dB164;dB165;dB166;dB167;dB168;dB169;dB170;dB171;dB172;dB173 MONTH;dB174;dB176 TREE;dB177;dB178
dB179;dB180;dB181;dB182;dB183;dB184;dB185;dB189;dB190;dB191 HELMET;dB220 FOOTSTOOL;dB225 BATHTUB
dB230 SPEAR;dB231 ARROW;dB232;dB233 SWORD;dB234;dB236;dB240 WHEELED CHARIOT;dB241 CHARIOT
dB242 CHARIOT FRAME;dB243 WHEEL;dB245;dB246;cMONOGRAM B247 DIPTE;cIDEOGRAM B248;dB249;dB251;dB252
dB253;dB254 DART;dB255;dB256;dB257;dB258;dB259;dVESSEL B155;eB200;eB201;eB202;eB203;eB204;eB205
eB206;eB207;eB208;eB209;eB210;eB211;eB212;eB213;eB214;eB215;eB216;eB217;eB218;eB219;eB221;eB222
eB226;eB227;eB228;eB229;eB250;eB305;@10100;aAEGEAN WORD SEPARATOR LINE;dDOT;bCHECK MARK;@10107
bNUMBER ONE;cTWO;cTHREE;cFOUR;cFIVE;cSIX;cSEVEN;cEIGHT;cNINE;cTEN;cTWENTY;cTHIRTY;cFORTY;cFIFTY
cSIXTY;cSEVENTY;cEIGHTY;cNINETY;cONE HUNDRED;cTWO HUNDRED;cTHREE HUNDRED;cFOUR HUNDRED
cFIVE HUNDRED;cSIX HUNDRED;cSEVEN HUNDRED;cEIGHT HUNDRED;cNINE HUNDRED;cONE THOUSAND;cTWO THOUSAND
cTHREE THOUSAND;cFOUR THOUSAND;cFIVE THOUSAND;cSIX THOUSAND;cSEVEN THOUSAND;cEIGHT THOUSAND
cNINE THOUSAND;cTEN THOUSAND;cTWENTY THOUSAND;cTHIRTY THOUSAND;cFORTY THOUSAND;cFIFTY THOUSAND
cSIXTY THOUSAND;cSEVENTY THOUSAND;cEIGHTY THOUSAND;cNINETY THOUSAND;@10137;bWEIGHT BASE UNIT
cFIRST SUBUNIT;cSECOND SUBUNIT;cTHIRD SUBUNIT;cFOURTH SUBUNIT;bDRY MEASURE FIRST SUBUNIT
bLIQUID MEASURE FIRST SUBUNIT;bMEASURE SECOND SUBUNIT;cTHIRD SUBUNIT
aGREEK ACROPHONIC ATTIC ONE QUARTER;eHALF;eDRACHMA;dFIVE;dFIFTY;dFIVE HUNDRED;eTHOUSAND
dFIFTY THOUSAND;dFIVE TALENTS;dTEN TALENTS;dFIFTY TALENTS;dONE HUNDRED TALENTS
dFIVE HUNDRED TALENTS;dONE THOUSAND TALENTS;dFIVE THOUSAND TALENTS;eSTATERS;dTEN STATERS
dFIFTY STATERS;dONE HUNDRED STATERS;dFIVE HUNDRED STATERS;dONE THOUSAND STATERS
dTEN THOUSAND STATERS;dFIFTY THOUSAND STATERS;dTEN MNAS;cHERAEUM ONE PLETHRON;cTHESPIAN ONE
cHERMIONIAN ONE;cEPIDAUREAN TWO;cTHESPIAN TWO;cCYRENAIC TWO DRACHMAS;cEPIDAUREAN TWO DRACHMAS
cTROEZENIAN FIVE;dTEN;eALTERNATE FORM;cHERMIONIAN TEN;cMESSENIAN TEN;cTHESPIAN TEN;dTHIRTY
cTROEZENIAN FIFTY;eALTERNATE FORM;cHERMIONIAN FIFTY;cTHESPIAN FIFTY;dONE HUNDRED;dTHREE HUNDRED
cEPIDAUREAN FIVE HUNDRED;cTROEZENIAN FIVE HUNDRED;cTHESPIAN FIVE HUNDRED;cCARYSTIAN FIVE HUNDRED
cNAXIAN FIVE HUNDRED;cTHESPIAN ONE THOUSAND;dFIVE THOUSAND;cDELPHIC FIVE MNAS;cSTRATIAN FIFTY MNAS
bONE HALF SIGN;eALTERNATE FORM;bTWO THIRDS SIGN;bTHREE QUARTERS SIGN;bYEAR SIGN;bTALENT SIGN
bDRACHMA SIGN;bOBOL SIGN;bTWO OBOLS SIGN;bTHREE OBOLS SIGN;bFOUR OBOLS SIGN;bFIVE OBOLS SIGN
bMETRETES SIGN;bKYATHOS BASE SIGN;bLITRA SIGN;bOUNKIA SIGN;bXESTES SIGN;bARTABE SIGN;bAROURA SIGN
bGRAMMA SIGN;bTRYBLION BASE SIGN;bZERO SIGN;bONE QUARTER SIGN;bSINUSOID SIGN;bINDICTION SIGN
aNOMISMA SIGN;@10190;aROMAN SEXTANS SIGN;bUNCIA SIGN;bSEMUNCIA SIGN;bSEXTULA SIGN
bDIMIDIA SEXTULA SIGN;bSILIQUA SIGN;bDENARIUS SIGN;bQUINARIUS SIGN;bSESTERTIUS SIGN
bDUPONDIUS SIGN;bAS SIGN;bCENTURIAL SIGN;aASCIA SYMBOL;@101A0;aGREEK SYMBOL TAU RHO;@101D0
aPHAISTOS DISC SIGN PEDESTRIAN;dPLUMED HEAD;dTATTOOED HEAD;dCAPTIVE;dCHILD;dWOMAN;dHELMET
dGAUNTLET;dTIARA;dARROW;dBOW;dSHIELD;dCLUB;dMANACLES;dMATTOCK;dSAW;dLID;dBOOMERANG
dCARPENTRY PLANE;dDOLIUM;dCOMB;dSLING;dCOLUMN;dBEEHIVE;dSHIP;dHORN;dHIDE;dBULLS LEG;dCAT;dRAM
dEAGLE;dDOVE;dTUNNY;dBEE;dPLANE TREE;dVINE;dPAPYRUS;dROSETTE;dLILY;dOX BACK;dFLUTE;dGRATER
dSTRAINER;dSMALL AXE;dWAVY BAND;dCOMBINING OBLIQUE STROKE;@10280;aLYCIAN LETTER A;cE;cB;cBH;cG;cD
cI;cW;cZ;cTH;cJ;cK;cQ;cL;cM;cN;cMM;cNN;cU;cP;cKK;cR;cS;cT;cTT;cAN;cEN;cH;cX;@102A0
aCARIAN LETTER A;cP2;cD;cL;cUUU;cR;cLD;cA2;cQ;cB;cM;cO;cD2;cT;cSH;cSH2;cS;cC-18;cU;cNN;cX;cN;cTT2
cP;cSS;cI;cE;cUUUU;cK;cK2;cND;cUU;cG;cG2;cST;cST2;cNG;cII;cC-39;cTT;cUUU2;cRR;cMB;cMB2;cMB3;cMB4
cLD2;cE2;cUUU3;@102E0;aCOPTIC EPACT THOUSANDS MARK;cDIGIT ONE;dTWO;dTHREE;dFOUR;dFIVE;dSIX;dSEVEN
dEIGHT;dNINE;cNUMBER TEN;dTWENTY;dTHIRTY;dFORTY;dFIFTY;dSIXTY;dSEVENTY;dEIGHTY;dNINETY
dONE HUNDRED;dTWO HUNDRED;dTHREE HUNDRED;dFOUR HUNDRED;dFIVE HUNDRED;dSIX HUNDRED;dSEVEN HUNDRED
dEIGHT HUNDRED;dNINE HUNDRED;@10300;aOLD ITALIC LETTER A;dBE;dKE;dDE;dE;dVE;dZE;dHE;dTHE;dI;dKA
dEL;dEM;dEN;dESH;dO;dPE;dSHE;dKU;dER;dES;dTE;dU;dEKS;dPHE;dKHE;dEF;dERS;dCHE;dII;dUU;dESS
cNUMERAL ONE;dFIVE;dTEN;dFIFTY;@1032D;cLETTER YE;dNORTHERN TSE;dSOUTHERN TSE;aGOTHIC LETTER AHSA
cBAIRKAN;cGIBA;cDAGS;cAIHVUS;cQAIRTHRA;cIUJA;cHAGL;cTHIUTH;cEIS;cKUSMA;cLAGUS;cMANNA;cNAUTHS;cJER
cURUS;cPAIRTHRA;cNINETY;cRAIDA;cSAUIL;cTEIWS;cWINJA;cFAIHU;cIGGWS;cHWAIR;cOTHAL;cNINE HUNDRED
@10350;aOLD PERMIC LETTER AN;dBUR;dGAI;dDOI;dE;dZHOI;dDZHOI;dZATA;dDZITA;dI;dKOKE;dLEI;dMENOE
dNENOE;dVOOI;dPEEI;dREI;dSII;dTAI;dU;dCHERY;dSHOOI;dSHCHOOI;dYRY;dYERU;dO;dOO;dEF;dHA;dTSIU;dVER
dYER;dYERI;dYAT;dIE;dYU;dYA;dIA;aCOMBINING OLD PERMIC LETTER AN;eDOI;eZATA;eNENOE;eSII;@10380
aUGARITIC LETTER ALPA;cBETA;cGAMLA;cKHA;cDELTA;cHO;cWO;cZETA;cHOTA;cTET;cYOD;cKAF;cSHIN;cLAMDA
cMEM;cDHAL;cNUN;cZU;cSAMKA;cAIN;cPU;cSADE;cQOPA;cRASHA;cTHANNA;cGHAIN;cTO;cI;cU;cSSU;@1039F
bWORD DIVIDER;aOLD PERSIAN SIGN A;dI;dU;dKA;dKU;dGA;dGU;dXA;dCA;dJA;dJI;dTA;dTU;dDA;dDI;dDU;dTHA
dPA;dBA;dFA;dNA;dNU;dMA;dMI;dMU;dYA;dVA;dVI;dRA;dRU;dLA;dSA;dZA;dSHA;dSSA;dHA;@103C8;dAURAMAZDAA
dAURAMAZDAA-2;dAURAMAZDAAHA;dXSHAAYATHIYA;dDAHYAAUSH;dDAHYAAUSH-2;dBAGA;dBUUMISH;cWORD DIVIDER
cNUMBER ONE;dTWO;dTEN;dTWENTY;dHUNDRED;@10400;aDESERET CAPITAL LETTER LONG I;eE;eA;eAH;eO;eOO
dSHORT I;eE;eA;eAH;eO;eOO;dAY;dOW;dWU;dYEE;dH;dPEE;dBEE;dTEE;dDEE;dCHEE;dJEE;dKAY;dGAY;dEF;dVEE
dETH;dTHEE;dES;dZEE;dESH;dZHEE;dER;dEL;dEM;dEN;dENG;dOI;dEW;bSMALL LETTER LONG I;eE;eA;eAH;eO;eOO
dSHORT I;eE;eA;eAH;eO;eOO;dAY;dOW;dWU;dYEE;dH;dPEE;dBEE;dTEE;dDEE;dCHEE;dJEE;dKAY;dGAY;dEF;dVEE
dETH;dTHEE;dES;dZEE;dESH;dZHEE;dER;dEL;dEM;dEN;dENG;dOI;dEW;aSHAVIAN LETTER PEEP;cTOT;cKICK;cFEE
cTHIGH;cSO;cSURE;cCHURCH;cYEA;cHUNG;cBIB;cDEAD;cGAG;cVOW;cTHEY;cZOO;cMEASURE;cJUDGE;cWOE;cHA-HA
cLOLL;cMIME;cIF;cEGG;cASH;cADO;cON;cWOOL;cOUT;cAH;cROAR;cNUN;cEAT;cAGE;cICE;cUP;cOAK;cOOZE;cOIL
cAWE;cARE;cOR;cAIR;cERR;cARRAY;cEAR;cIAN;cYEW;aOSMANYA LETTER ALEF;cBA;cTA;cJA;cXA;cKHA;cDEEL;cRA
cSA;cSHIIN;cDHA;cCAYN;cGA;cFA;cQAAF;cKAAF;cLAAN;cMIIN;cNUUN;cWAW;cHA;cYA;cA;cE;cI;cO;cU;cAA;cEE
cOO;@104A0;bDIGIT ZERO;cONE;cTWO;cTHREE;cFOUR;cFIVE;cSIX;cSEVEN;cEIGHT;cNINE;@104B0
aOSAGE CAPITAL LETTER A;dAI;dAIN;dAH;dBRA;dCHA;dEHCHA;dE;dEIN;dHA;dHYA;dI;dKA;dEHKA;dKYA;dLA;dMA
dNA;dO;dOIN;dPA;dEHPA;dSA;dSHA;dTA;dEHTA;dTSA;dEHTSA;dTSHA;dDHA;dU;dWA;dKHA;dGHA;dZA;dZHA;@104D8
bSMALL LETTER A;dAI;dAIN;dAH;dBRA;dCHA;dEHCHA;dE;dEIN;dHA;dHYA;dI;dKA;dEHKA;dKYA;dLA;dMA;dNA;dO
dOIN;dPA;dEHPA;dSA;dSHA;dTA;dEHTA;dTSA;dEHTSA;dTSHA;dDHA;dU;dWA;dKHA;dGHA;dZA;dZHA;@10500
aELBASAN LETTER A;cBE;cCE;cCHE;cDE;cNDE;cDHE;cEI;cE;cFE;cGE;cGJE;cHE;cI;cJE;cKE;cLE;cLLE;cME;cNE
cNA;cNJE;cO;cPE;cQE;cRE;cRRE;cSE;cSHE;cTE;cTHE;cU;cVE;cXE;cY;cZE;cZHE;cGHE;cGHAMMA;cKHE;@10530
aCAUCASIAN ALBANIAN LETTER ALT;dBET;dGIM;dDAT;dEB;dZARL;dEYN;dZHIL;dTAS;dCHA;dYOWD;dZHA;dIRB;dSHA
dLAN;dINYA;dXEYN;dDYAN;dCAR;dJHOX;dKAR;dLYIT;dHEYT;dQAY;dAOR;dCHOY;dCHI;dCYAY;dMAQ;dQAR;dNOWC
dDZYAY;dSHAK;dJAYN;dON;dTYAY;dFAM;dDZAY;dCHAT;dPEN;dGHEYS;dRAT;dSEYK;dVEYZ;dTIWR;dSHOY;dIWN;dCYAW
dCAYN;dYAYD;dPIWR;dKIW;@1056F;cCITATION MARK;aVITHKUQI CAPITAL LETTER A;dBBE;dBE;dCE;dCHE;dDE;dDHE
dEI;dE;dFE;dGA;@1057C;dHA;dHHA;dI;dIJE;dJE;dKA;dLA;dLLA;dME;dNE;dNJE;dO;dPE;dQA;dRE;@1058C;dSE
dSHE;dTE;dTHE;dU;dVE;dXE;@10594;dY;dZE;@10597;bSMALL LETTER A;dBBE;dBE;dCE;dCHE;dDE;dDHE;dEI;dE
dFE;dGA;@105A3;dHA;dHHA;dI;dIJE;dJE;dKA;dLA;dLLA;dME;dNE;dNJE;dO;dPE;dQA;dRE;@105B3;dSE;dSHE;dTE
dTHE;dU;dVE;dXE;@105BB;dY;dZE;@10600;aLINEAR A SIGN AB001;dAB002;dAB003;dAB004;dAB005;dAB006
dAB007;dAB008;dAB009;dAB010;dAB011;dAB013;dAB016;dAB017;dAB020;dAB021;dAB021F;dAB021M;dAB022
dAB022F;dAB022M;dAB023;dAB023M;dAB024;dAB026;dAB027;dAB028;dA028B;dAB029;dAB030;dAB031;dAB034
dAB037;dAB038;dAB039;dAB040;dAB041;dAB044;dAB045;dAB046;dAB047;dAB048;dAB049;dAB050;dAB051;dAB053
dAB054;dAB055;dAB056;dAB057;dAB058;dAB059;dAB060;dAB061;dAB065;dAB066;dAB067;dAB069;dAB070;dAB073
dAB074;dAB076;dAB077;dAB078;dAB079;dAB080;dAB081;dAB082;dAB085;dAB086;dAB087;dA100-102;dAB118
dAB120;dA120B;dAB122;dAB123;dAB131A;dAB131B;dA131C;dAB164;dAB171;dAB180;dAB188;dAB191;dA301;dA302
dA303;dA304;dA305;dA306;dA307;dA308;dA309A;dA309B;dA309C;dA310;dA311;dA312;dA313A;dA313B;dA313C
dA314;dA315;dA316;dA317;dA318;dA319;dA320;dA321;dA322;dA323;dA324;dA325;dA326;dA327;dA328;dA329
dA330;dA331;dA332;dA333;dA334;dA335;dA336;dA337;dA338;dA339;dA340;dA341;dA342;dA343;dA344;dA345
dA346;dA347;dA348;dA349;dA350;dA351;dA352;dA353;dA354;dA355;dA356;dA357;dA358;dA359;dA360;dA361
dA362;dA363;dA364;dA365;dA366;dA367;dA368;dA369;dA370;dA371;dA400-VAS;dA401-VAS;dA402-VAS
dA403-VAS;dA404-VAS;dA405-VAS;dA406-VAS;dA407-VAS;dA408-VAS;dA409-VAS;dA410-VAS;dA411-VAS
dA412-VAS;dA413-VAS;dA414-VAS;dA415-VAS;dA416-VAS;dA417-VAS;dA418-VAS;dA501;dA502;dA503;dA504
dA505;dA506;dA508;dA509;dA510;dA511;dA512;dA513;dA515;dA516;dA520;dA521;dA523;dA524;dA525;dA526
dA527;dA528;dA529;dA530;dA531;dA532;dA534;dA535;dA536;dA537;dA538;dA539;dA540;dA541;dA542;dA545
dA547;dA548;dA549;dA550;dA551;dA552;dA553;dA554;dA555;dA556;dA557;dA559;dA563;dA564;dA565;dA566
dA568;dA569;dA570;dA571;dA572;dA573;dA574;dA575;dA576;dA577;dA578;dA579;dA580;dA581;dA582;dA583
dA584;dA585;dA586;dA587;dA588;dA589;dA591;dA592;dA594;dA595;dA596;dA598;dA600;dA601;dA602;dA603
dA604;dA606;dA608;dA609;dA610;dA611;dA612;dA613;dA614;dA615;dA616;dA617;dA618;dA619;dA620;dA621
dA622;dA623;dA624;dA626;dA627;dA628;dA629;dA634;dA637;dA638;dA640;dA642;dA643;dA644;dA645;dA646
dA648;dA649;dA651;dA652;dA653;dA654;dA655;dA656;dA657;dA658;dA659;dA660;dA661;dA662;dA663;dA664
@10740;dA701 A;dA702 B;dA703 D;dA704 E;dA705 F;dA706 H;dA707 J;dA708 K;dA709 L;dA709-2 L2
dA709-3 L3;dA709-4 L4;dA709-6 L6;dA710 W;dA711 X;dA712 Y;dA713 OMEGA;dA714 ABB;dA715 BB;dA717 DD
dA726 EYYY;dA732 JE;@10760;dA800;dA801;dA802;dA803;dA804;dA805;dA806;dA807;@10780
aMODIFIER LETTER SMALL CAPITAL AA;cSUPERSCRIPT TRIANGULAR COLON;dHALF TRIANGULAR COLON;cSMALL AE
dCAPITAL B;dB WITH HOOK;@10787;dDZ DIGRAPH;fWITH RETROFLEX HOOK;gCURL;dDEZH DIGRAPH;dD WITH TAIL
fHOOK;gAND TAIL;dREVERSED E;dCLOSED REVERSED OPEN E;dFENG DIGRAPH;dRAMS HORN;dCAPITAL G
dG WITH HOOK;dCAPITAL G WITH HOOK;dH WITH STROKE;dCAPITAL H;dHENG WITH HOOK
dDOTLESS J WITH STROKE AND HOOK;dLS DIGRAPH;dLZ DIGRAPH;dL WITH BELT;dCAPITAL L WITH BELT
dL WITH RETROFLEX HOOK AND BELT;dLEZH;eWITH RETROFLEX HOOK;dTURNED Y;fWITH BELT;dO WITH STROKE
dCAPITAL OE;dCLOSED OMEGA;dQ;dTURNED R WITH LONG LEG;iAND RETROFLEX HOOK;dR WITH TAIL;fFISHHOOK
dCAPITAL R;dTC DIGRAPH WITH CURL;dTS DIGRAPH;fWITH RETROFLEX HOOK;dTESH DIGRAPH
dT WITH RETROFLEX HOOK;dV WITH RIGHT HOOK;@107B2;dCAPITAL Y;cGLOTTAL STOP WITH STROKE
cREVERSED GLOTTAL STOP WITH STROKE;cBILABIAL CLICK;cDENTAL CLICK;cLATERAL CLICK;cALVEOLAR CLICK
cRETROFLEX CLICK WITH RETROFLEX HOOK;cSMALL S WITH CURL;@10800;aCYPRIOT SYLLABLE A;cE;cI;cO;cU;cJA
@10808;cJO;@1080A;cKA;cKE;cKI;cKO;cKU;cLA;cLE;cLI;cLO;cLU;cMA;cME;cMI;cMO;cMU;cNA;cNE;cNI;cNO;cNU
cPA;cPE;cPI;cPO;cPU;cRA;cRE;cRI;cRO;cRU;cSA;cSE;cSI;cSO;cSU;cTA;cTE;cTI;cTO;cTU;cWA;cWE;cWI;cWO
@10837;cXA;cXE;@1083C;cZA;@1083F;cZO;aIMPERIAL ARAMAIC LETTER ALEPH;dBETH;dGIMEL;dDALETH;dHE;dWAW
dZAYIN;dHETH;dTETH;dYODH;dKAPH;dLAMEDH;dMEM;dNUN;dSAMEKH;dAYIN;dPE;dSADHE;dQOPH;dRESH;dSHIN;dTAW
@10857;cSECTION SIGN;cNUMBER ONE;dTWO;dTHREE;dTEN;dTWENTY;dONE HUNDRED;eTHOUSAND;dTEN THOUSAND
aPALMYRENE LETTER ALEPH;cBETH;cGIMEL;cDALETH;cHE;cWAW;cZAYIN;cHETH;cTETH;cYODH;cKAPH;cLAMEDH;cMEM
cFINAL NUN;cNUN;cSAMEKH;cAYIN;cPE;cSADHE;cQOPH;cRESH;cSHIN;cTAW;bLEFT-POINTING FLEURON
bRIGHT-POINTING FLEURON;bNUMBER ONE;cTWO;cTHREE;cFOUR;cFIVE;cTEN;cTWENTY
aNABATAEAN LETTER FINAL ALEPH;cALEPH;cFINAL BETH;cBETH;cGIMEL;cDALETH;cFINAL HE;cHE;cWAW;cZAYIN
cHETH;cTETH;cFINAL YODH;cYODH;cFINAL KAPH;cKAPH;cFINAL LAMEDH;cLAMEDH;cFINAL MEM;cMEM;cFINAL NUN
cNUN;cSAMEKH;cAYIN;cPE;cSADHE;cQOPH;cRESH;cFINAL SHIN;cSHIN;cTAW;@108A7;bNUMBER ONE;cTWO;cTHREE
cFOUR;bCRUCIFORM NUMBER FOUR;bNUMBER FIVE;cTEN;cTWENTY;cONE HUNDRED;@108E0;aHATRAN LETTER ALEPH
cBETH;cGIMEL;cDALETH-RESH;cHE;cWAW;cZAYN;cHETH;cTETH;cYODH;cKAPH;cLAMEDH;cMEM;cNUN;cSAMEKH;cAYN
cPE;cSADHE;cQOPH;@108F4;cSHIN;cTAW;@108FB;bNUMBER ONE;cFIVE;cTEN;cTWENTY;cONE HUNDRED
aPHOENICIAN LETTER ALF;cBET;cGAML;cDELT;cHE;cWAU;cZAI;cHET;cTET;cYOD;cKAF;cLAMD;cMEM;cNUN;cSEMK
cAIN;cPE;cSADE;cQOF;cROSH;cSHIN;cTAU;bNUMBER ONE;cTEN;cTWENTY;cONE HUNDRED;cTWO;cTHREE;@1091F
bWORD SEPARATOR;aLYDIAN LETTER A;cB;cG;cD;cE;cV;cI;cY;cK;cL;cM;cN;cO;cR;cSS;cT;cU;cF;cQ;cS;cTT;cAN
cEN;cLY;cNN;cC;@1093F;bTRIANGULAR MARK;@10980;aMEROITIC HIEROGLYPHIC LETTER A;dE;dI;dO;dYA;dWA;dBA
dBA-2;dPA;dMA;dNA;dNA-2;dNE;dNE-2;dRA;dRA-2;dLA;dKHA;dHHA;dSA;dSA-2;dSE;dKA;dQA;dTA;dTA-2;dTE
dTE-2;dTO;dDA;cSYMBOL VIDJ;dVIDJ-2;bCURSIVE LETTER A;dE;dI;dO;dYA;dWA;dBA;dPA;dMA;dNA;dNE;dRA;dLA
dKHA;dHHA;dSA;dARCHAIC SA;dSE;dKA;dQA;dTA;dTE;dTO;dDA;@109BC;cFRACTION ELEVEN TWELFTHS;dONE HALF
cLOGOGRAM RMT;dIMN;cNUMBER ONE;dTWO;dTHREE;dFOUR;dFIVE;dSIX;dSEVEN;dEIGHT;dNINE;dTEN;dTWENTY
dTHIRTY;dFORTY;dFIFTY;dSIXTY;dSEVENTY;@109D2;dONE HUNDRED;dTWO HUNDRED;dTHREE HUNDRED
dFOUR HUNDRED;dFIVE HUNDRED;dSIX HUNDRED;dSEVEN HUNDRED;dEIGHT HUNDRED;dNINE HUNDRED;dONE THOUSAND
dTWO THOUSAND;dTHREE THOUSAND;dFOUR THOUSAND;dFIVE THOUSAND;dSIX THOUSAND;dSEVEN THOUSAND
dEIGHT THOUSAND;dNINE THOUSAND;dTEN THOUSAND;dTWENTY THOUSAND;dTHIRTY THOUSAND;dFORTY THOUSAND
dFIFTY THOUSAND;dSIXTY THOUSAND;dSEVENTY THOUSAND;dEIGHTY THOUSAND;dNINETY THOUSAND
dONE HUNDRED THOUSAND;dTWO HUNDRED THOUSAND;dTHREE HUNDRED THOUSAND;dFOUR HUNDRED THOUSAND
dFIVE HUNDRED THOUSAND;dSIX HUNDRED THOUSAND;dSEVEN HUNDRED THOUSAND;dEIGHT HUNDRED THOUSAND
dNINE HUNDRED THOUSAND;cFRACTION ONE TWELFTH;dTWO TWELFTHS;dTHREE TWELFTHS;dFOUR TWELFTHS
dFIVE TWELFTHS;dSIX TWELFTHS;dSEVEN TWELFTHS;dEIGHT TWELFTHS;dNINE TWELFTHS;dTEN TWELFTHS
aKHAROSHTHI LETTER A;bVOWEL SIGN I;dU;dVOCALIC R;@10A05;dE;dO;@10A0C;cLENGTH MARK
bSIGN DOUBLE RING BELOW;cANUSVARA;cVISARGA;bLETTER KA;cKHA;cGA;cGHA;@10A15;cCA;cCHA;cJA;@10A19
cNYA;cTTA;cTTHA;cDDA;cDDHA;cNNA;cTA;cTHA;cDA;cDHA;cNA;cPA;cPHA;cBA;cBHA;cMA;cYA;cRA;cLA;cVA;cSHA
cSSA;cSA;cZA;cHA;cKKA;cTTTHA;cTTTA;cVHA;@10A38;bSIGN BAR ABOVE;cCAUDA;cDOT BELOW;@10A3F;bVIRAMA
bDIGIT ONE;cTWO;cTHREE;cFOUR;bNUMBER TEN;cTWENTY;cONE HUNDRED;dTHOUSAND;bFRACTION ONE HALF;@10A50
bPUNCTUATION DOT;cSMALL CIRCLE;cCIRCLE;cCRESCENT BAR;cMANGALAM;cLOTUS;cDANDA;cDOUBLE DANDA;cLINES
@10A60;aOLD SOUTH ARABIAN LETTER HE;eLAMEDH;eHETH;eMEM;eQOPH;eWAW;eSHIN;eRESH;eBETH;eTAW;eSAT
eKAPH;eNUN;eKHETH;eSADHE;eSAMEKH;eFE;eALEF;eAYN;eDHADHE;eGIMEL;eDALETH;eGHAYN;eTETH;eZAYN;eDHALETH
eYODH;eTHAW;eTHETH;dNUMBER ONE;eFIFTY;dNUMERIC INDICATOR;bNORTH ARABIAN LETTER HEH;eLAM;eHAH;eMEEM
eQAF;eWAW;eES-2;eREH;eBEH;eTEH;eES-1;eKAF;eNOON;eKHAH;eSAD;eES-3;eFEH;eALEF;eAIN;eDAD;eGEEM;eDAL
eGHAIN;eTAH;eZAIN;eTHAL;eYEH;eTHEH;eZAH;dNUMBER ONE;eTEN;eTWENTY;@10AC0;aMANICHAEAN LETTER ALEPH
cBETH;cBHETH;cGIMEL;cGHIMEL;cDALETH;cHE;cWAW;bSIGN UD;bLETTER ZAYIN;cZHAYIN;cJAYIN;cJHAYIN;cHETH
cTETH;cYODH;cKAPH;cXAPH;cKHAPH;cLAMEDH;cDHAMEDH;cTHAMEDH;cMEM;cNUN;cSAMEKH;cAYIN;cAAYIN;cPE;cFE
cSADHE;cQOPH;cXOPH;cQHOPH;cRESH;cSHIN;cSSHIN;cTAW;bABBREVIATION MARK ABOVE;dBELOW;@10AEB
bNUMBER ONE;cFIVE;cTEN;cTWENTY;cONE HUNDRED;bPUNCTUATION STAR;cFLEURON;cDOUBLE DOT WITHIN DOT
cDOT WITHIN DOT;cDOT;cTWO DOTS;cLINE FILLER;@10B00;aAVESTAN LETTER A;cAA;cAO;cAAO;cAN;cAAN;cAE
cAEE;cE;cEE;cO;cOO;cI;cII;cU;cUU;cKE;cXE;cXYE;cXVE;cGE;cGGE;cGHE;cCE;cJE;cTE;cTHE;cDE;cDHE;cTTE
cPE;cFE;cBE;cBHE;cNGE;cNGYE;cNGVE;cNE;cNYE;cNNE;cME;cHME;cYYE;cYE;cVE;cRE;cLE;cSE;cZE;cSHE;cZHE
cSHYE;cSSHE;cHE;@10B39;bABBREVIATION MARK;aTINY TWO DOTS OVER ONE DOT PUNCTUATION
aSMALL TWO DOTS OVER ONE DOT PUNCTUATION;aLARGE TWO DOTS OVER ONE DOT PUNCTUATION
bONE DOT OVER TWO DOTS PUNCTUATION;bTWO RINGS OVER ONE RING PUNCTUATION
bONE RING OVER TWO RINGS PUNCTUATION;aINSCRIPTIONAL PARTHIAN LETTER ALEPH;dBETH;dGIMEL;dDALETH;dHE
dWAW;dZAYIN;dHETH;dTETH;dYODH;dKAPH;dLAMEDH;dMEM;dNUN;dSAMEKH;dAYIN;dPE;dSADHE;dQOPH;dRESH;dSHIN
dTAW;@10B58;cNUMBER ONE;dTWO;dTHREE;dFOUR;dTEN;dTWENTY;dONE HUNDRED;eTHOUSAND
bPAHLAVI LETTER ALEPH;dBETH;dGIMEL;dDALETH;dHE;dWAW-AYIN-RESH;dZAYIN;dHETH;dTETH;dYODH;dKAPH
dLAMEDH;dMEM-QOPH;dNUN;dSAMEKH;dPE;dSADHE;dSHIN;dTAW;@10B78;cNUMBER ONE;dTWO;dTHREE;dFOUR;dTEN
dTWENTY;dONE HUNDRED;eTHOUSAND;aPSALTER PAHLAVI LETTER ALEPH;dBETH;dGIMEL;dDALETH;dHE
dWAW-AYIN-RESH;dZAYIN;dHETH;dYODH;dKAPH;dLAMEDH;dMEM-QOPH;dNUN;dSAMEKH;dPE;dSADHE;dSHIN;dTAW
@10B99;cSECTION MARK;cTURNED SECTION MARK;cFOUR DOTS WITH CROSS;fDOT;@10BA9;cNUMBER ONE;dTWO
dTHREE;dFOUR;dTEN;dTWENTY;dONE HUNDRED;@10C00;aOLD TURKIC LETTER ORKHON A;dYENISEI A;eAE;dORKHON I
dYENISEI I;eE;dORKHON O;eOE;dYENISEI OE;dORKHON AB;dYENISEI AB;dORKHON AEB;dYENISEI AEB;dORKHON AG
dYENISEI AG;dORKHON AEG;dYENISEI AEG;dORKHON AD;dYENISEI AD;dORKHON AED;eEZ;dYENISEI EZ;dORKHON AY
dYENISEI AY;dORKHON AEY;dYENISEI AEY;dORKHON AEK;dYENISEI AEK;dORKHON OEK;dYENISEI OEK;dORKHON AL
dYENISEI AL;dORKHON AEL;eELT;eEM;eAN;eAEN;dYENISEI AEN;dORKHON ENT;dYENISEI ENT;dORKHON ENC
dYENISEI ENC;dORKHON ENY;dYENISEI ENY;eANG;dORKHON ENG;dYENISEI AENG;dORKHON EP;eOP;eIC;eEC
dYENISEI EC;dORKHON AQ;dYENISEI AQ;dORKHON IQ;dYENISEI IQ;dORKHON OQ;dYENISEI OQ;dORKHON AR
dYENISEI AR;dORKHON AER;eAS;eAES;eASH;dYENISEI ASH;dORKHON ESH;dYENISEI ESH;dORKHON AT;dYENISEI AT
dORKHON AET;dYENISEI AET;dORKHON OT;eBASH;@10C80;bHUNGARIAN CAPITAL LETTER A;eAA;eEB;eAMB;eEC;eENC
eECS;eED;eAND;eE;eCLOSE E;eEE;eEF;eEG;eEGY;eEH;eI;eII;eEJ;eEK;eAK;eUNK;eEL;eELY;eEM;eEN;eENY;eO
eOO;eNIKOLSBURG OE;eRUDIMENTA OE;eOEE;eEP;eEMP;eER;eSHORT ER;eES;eESZ;eET;eENT;eETY;eECH;eU;eUU
eNIKOLSBURG UE;eRUDIMENTA UE;eEV;eEZ;eEZS;eENT-SHAPED SIGN;eUS;@10CC0;cSMALL LETTER A;eAA;eEB;eAMB
eEC;eENC;eECS;eED;eAND;eE;eCLOSE E;eEE;eEF;eEG;eEGY;eEH;eI;eII;eEJ;eEK;eAK;eUNK;eEL;eELY;eEM;eEN
eENY;eO;eOO;eNIKOLSBURG OE;eRUDIMENTA OE;eOEE;eEP;eEMP;eER;eSHORT ER;eES;eESZ;eET;eENT;eETY;eECH
eU;eUU;eNIKOLSBURG UE;eRUDIMENTA UE;eEV;eEZ;eEZS;eENT-SHAPED SIGN;eUS;@10CFA;cNUMBER ONE;dFIVE
dTEN;dFIFTY;dONE HUNDRED;eTHOUSAND;aHANIFI ROHINGYA LETTER A;dBA;dPA;dTA;dTTA;dJA;dCA;dHA;dKHA;dFA
dDA;dDDA;dRA;dRRA;dZA;dSA;dSHA;dKA;dGA;dLA;dMA;dNA;dWA;dKINNA WA;dYA;dKINNA YA;dNGA;dNYA;dVA
cVOWEL A;dI;dU;dE;dO;cMARK SAKIN;dNA KHONNA;cSIGN HARBAHAY;dTAHALA;dTANA;dTASSI;@10D30;cDIGIT ZERO
dONE;dTWO;dTHREE;dFOUR;dFIVE;dSIX;dSEVEN;dEIGHT;dNINE;@10E60;aRUMI DIGIT ONE;cTWO;cTHREE;cFOUR
cFIVE;cSIX;cSEVEN;cEIGHT;cNINE;bNUMBER TEN;cTWENTY;cTHIRTY;cFORTY;cFIFTY;cSIXTY;cSEVENTY;cEIGHTY
cNINETY;cONE HUNDRED;cTWO HUNDRED;cTHREE HUNDRED;cFOUR HUNDRED;cFIVE HUNDRED;cSIX HUNDRED
cSEVEN HUNDRED;cEIGHT HUNDRED;cNINE HUNDRED;bFRACTION ONE HALF;dQUARTER;dTHIRD;cTWO THIRDS;@10E80
aYEZIDI LETTER ELIF;cBE;cPE;cPHE;cTHE;cSE;cCIM;cCHIM;cCHHIM;cHHA;cXA;cDAL;cZAL;cRA;cRHA;cZA;cJA
cSIN;cSHIN;cSAD;cDAD;cTA;cZE;cEYN;cXHEYN;cFA;cVA;dALTERNATE FORM;cQAF;cKAF;cKHAF;cGAF;cLAM;cMIM
cNUN;cUM;cWAW;cOW;cEW;cHAY;cYOT;cET;@10EAB;bCOMBINING HAMZA MARK;cMADDA MARK;bHYPHENATION MARK
@10EB0;bLETTER LAM WITH DOT ABOVE;cYOT WITH CIRCUMFLEX ABOVE;@10F00;aOLD SOGDIAN LETTER ALEPH
dFINAL ALEPH;dBETH;dFINAL BETH;dGIMEL;dHE;dFINAL HE;dWAW;dZAYIN;dHETH;dYODH;dKAPH;dLAMEDH;dMEM
dNUN;dFINAL NUN;fWITH VERTICAL TAIL;dSAMEKH;dAYIN;dALTERNATE AYIN;dPE;dSADHE;dFINAL SADHE
fWITH VERTICAL TAIL;dRESH-AYIN-DALETH;dSHIN;dTAW;dFINAL TAW;fWITH VERTICAL TAIL;cNUMBER ONE;dTWO
dTHREE;dFOUR;dFIVE;dTEN;dTWENTY;dTHIRTY;dONE HUNDRED;cFRACTION ONE HALF;cLIGATURE AYIN-DALETH
@10F30;aSOGDIAN LETTER ALEPH;cBETH;cGIMEL;cHE;cWAW;cZAYIN;cHETH;cYODH;cKAPH;cLAMEDH;cMEM;cNUN
cSAMEKH;cAYIN;cPE;cSADHE;cRESH-AYIN;cSHIN;cTAW;cFETH;cLESH;bINDEPENDENT SHIN;bCOMBINING DOT BELOW
cTWO DOTS BELOW;cDOT ABOVE;cTWO DOTS ABOVE;cCURVE ABOVE;dBELOW;cHOOK ABOVE;dBELOW;cLONG HOOK BELOW
cRESH BELOW;cSTROKE BELOW;bNUMBER ONE;cTEN;cTWENTY;cONE HUNDRED;bPUNCTUATION TWO VERTICAL BARS
fWITH DOTS;cCIRCLE WITH DOT;cTWO CIRCLES WITH DOTS;cHALF CIRCLE WITH DOT;@10F70
aOLD UYGHUR LETTER ALEPH;dBETH;dGIMEL-HETH;dWAW;dZAYIN;dFINAL HETH;dYODH;dKAPH;dLAMEDH;dMEM;dNUN
dSAMEKH;dPE;dSADHE;dRESH;dSHIN;dTAW;dLESH;cCOMBINING DOT ABOVE;eBELOW;dTWO DOTS ABOVE;fBELOW
cPUNCTUATION BAR;dTWO BARS;eDOTS;dFOUR DOTS;@10FB0;aCHORASMIAN LETTER ALEPH;cSMALL ALEPH;cBETH
cGIMEL;cDALETH;cHE;cWAW;cCURLED WAW;cZAYIN;cHETH;cYODH;cKAPH;cLAMEDH;cMEM;cNUN;cSAMEKH;cAYIN;cPE
cRESH;cSHIN;cTAW;bNUMBER ONE;cTWO;cTHREE;cFOUR;cTEN;cTWENTY;cONE HUNDRED;@10FE0
aELYMAIC LETTER ALEPH;cBETH;cGIMEL;cDALETH;cHE;cWAW;cZAYIN;cHETH;cTETH;cYODH;cKAPH;cLAMEDH;cMEM
cNUN;cSAMEKH;cAYIN;cPE;cSADHE;cQOPH;cRESH;cSHIN;cTAW;bLIGATURE ZAYIN-YODH;@11000
aBRAHMI SIGN CANDRABINDU;cANUSVARA;cVISARGA;cJIHVAMULIYA;cUPADHMANIYA;bLETTER A;cAA;cI;cII;cU;cUU
cVOCALIC R;dRR;dL;dLL;cE;cAI;cO;cAU;cKA;cKHA;cGA;cGHA;cNGA;cCA;cCHA;cJA;cJHA;cNYA;cTTA;cTTHA;cDDA
cDDHA;cNNA;cTA;cTHA;cDA;cDHA;cNA;cPA;cPHA;cBA;cBHA;cMA;cYA;cRA;cLA;cVA;cSHA;cSSA;cSA;cHA;cLLA
cOLD TAMIL LLLA;eRRA;eNNNA;bVOWEL SIGN AA;dBHATTIPROLU AA;dI;dII;dU;dUU;dVOCALIC R;eRR;eL;eLL;dE
dAI;dO;dAU;bVIRAMA;bDANDA;bDOUBLE DANDA;bPUNCTUATION DOT;cDOUBLE DOT;cLINE;cCRESCENT BAR;cLOTUS
@11052;bNUMBER ONE;cTWO;cTHREE;cFOUR;cFIVE;cSIX;cSEVEN;cEIGHT;cNINE;cTEN;cTWENTY;cTHIRTY;cFORTY
cFIFTY;cSIXTY;cSEVENTY;cEIGHTY;cNINETY;cONE HUNDRED;dTHOUSAND;bDIGIT ZERO;cONE;cTWO;cTHREE;cFOUR
cFIVE;cSIX;cSEVEN;cEIGHT;cNINE;bSIGN OLD TAMIL VIRAMA;bLETTER OLD TAMIL SHORT E;fO
bVOWEL SIGN OLD TAMIL SHORT E;gO;bLETTER OLD TAMIL LLA;@1107F;bNUMBER JOINER
aKAITHI SIGN CANDRABINDU;cANUSVARA;cVISARGA;bLETTER A;cAA;cI;cII;cU;cUU;cE;cAI;cO;cAU;cKA;cKHA;cGA
cGHA;cNGA;cCA;cCHA;cJA;cJHA;cNYA;cTTA;cTTHA;cDDA;cDDDHA;cDDHA;cRHA;cNNA;cTA;cTHA;cDA;cDHA;cNA;cPA
cPHA;cBA;cBHA;cMA;cYA;cRA;cLA;cVA;cSHA;cSSA;cSA;cHA;bVOWEL SIGN AA;dI;dII;dU;dUU;dE;dAI;dO;dAU
bSIGN VIRAMA;cNUKTA;bABBREVIATION SIGN;bENUMERATION SIGN;bNUMBER SIGN;bSECTION MARK
bDOUBLE SECTION MARK;bDANDA;bDOUBLE DANDA;bVOWEL SIGN VOCALIC R;@110CD;bNUMBER SIGN ABOVE;@110D0
aSORA SOMPENG LETTER SAH;dTAH;dBAH;dCAH;dDAH;dGAH;dMAH;dNGAH;dLAH;dNAH;dVAH;dPAH;dYAH;dRAH;dHAH
dKAH;dJAH;dNYAH;dAH;dEEH;dIH;dUH;dOH;dEH;dMAE;@110F0;cDIGIT ZERO;dONE;dTWO;dTHREE;dFOUR;dFIVE;dSIX
dSEVEN;dEIGHT;dNINE;@11100;aCHAKMA SIGN CANDRABINDU;cANUSVARA;cVISARGA;bLETTER AA;cI;cU;cE;cKAA
cKHAA;cGAA;cGHAA;cNGAA;cCAA;cCHAA;cJAA;cJHAA;cNYAA;cTTAA;cTTHAA;cDDAA;cDDHAA;cNNAA;cTAA;cTHAA;cDAA
cDHAA;cNAA;cPAA;cPHAA;cBAA;cBHAA;cMAA;cYYAA;cYAA;cRAA;cLAA;cWAA;cSAA;cHAA;bVOWEL SIGN A;dI;dII;dU
dUU;dE;dAI;dO;dAU;dOI;bO MARK;bAU MARK;bVIRAMA;bMAAYYAA;@11136;bDIGIT ZERO;cONE;cTWO;cTHREE;cFOUR
cFIVE;cSIX;cSEVEN;cEIGHT;cNINE;bSECTION MARK;bDANDA;bDOUBLE DANDA;bQUESTION MARK;bLETTER LHAA
bVOWEL SIGN AA;dEI;bLETTER VAA;@11150;aMAHAJANI LETTER A;cI;cU;cE;cO;cKA;cKHA;cGA;cGHA;cCA;cCHA
cJA;cJHA;cNYA;cTTA;cTTHA;cDDA;cDDHA;cNNA;cTA;cTHA;cDA;cDHA;cNA;cPA;cPHA;cBA;cBHA;cMA;cRA;cLA;cVA
cSA;cHA;cRRA;bSIGN NUKTA;bABBREVIATION SIGN;bSECTION MARK;bLIGATURE SHRI;@11180
aSHARADA SIGN CANDRABINDU;cANUSVARA;cVISARGA;bLETTER A;cAA;cI;cII;cU;cUU;cVOCALIC R;dRR;dL;dLL;cE
cAI;cO;cAU;cKA;cKHA;cGA;cGHA;cNGA;cCA;cCHA;cJA;cJHA;cNYA;cTTA;cTTHA;cDDA;cDDHA;cNNA;cTA;cTHA;cDA
cDHA;cNA;cPA;cPHA;cBA;cBHA;cMA;cYA;cRA;cLA;cLLA;cVA;cSHA;cSSA;cSA;cHA;bVOWEL SIGN AA;dI;dII;dU;dUU
dVOCALIC R;eRR;eL;eLL;dE;dAI;dO;dAU;bSIGN VIRAMA;cAVAGRAHA;cJIHVAMULIYA;cUPADHMANIYA;bOM;bDANDA
bDOUBLE DANDA;bABBREVIATION SIGN;bSEPARATOR;bSANDHI MARK;bSIGN NUKTA;bVOWEL MODIFIER MARK
bEXTRA SHORT VOWEL MARK;bSUTRA MARK;bVOWEL SIGN PRISHTHAMATRA E;bSIGN INVERTED CANDRABINDU
bDIGIT ZERO;cONE;cTWO;cTHREE;cFOUR;cFIVE;cSIX;cSEVEN;cEIGHT;cNINE;bEKAM;bSIGN SIDDHAM;bHEADSTROKE
bCONTINUATION SIGN;bSECTION MARK-1;cMARK-2;@111E1;aSINHALA ARCHAIC DIGIT ONE;dTWO;dTHREE;dFOUR
dFIVE;dSIX;dSEVEN;dEIGHT;dNINE;cNUMBER TEN;dTWENTY;dTHIRTY;dFORTY;dFIFTY;dSIXTY;dSEVENTY;dEIGHTY
dNINETY;dONE HUNDRED;eTHOUSAND;@11200;aKHOJKI LETTER A;cAA;cI;cU;cE;cAI;cO;cAU;cKA;cKHA;cGA;cGGA
cGHA;cNGA;cCA;cCHA;cJA;cJJA;@11213;cNYA;cTTA;cTTHA;cDDA;cDDHA;cNNA;cTA;cTHA;cDA;cDDDA;cDHA;cNA;cPA
cPHA;cBA;cBBA;cBHA;cMA;cYA;cRA;cLA;cVA;cSA;cHA;cLLA;bVOWEL SIGN AA;dI;dII;dU;dE;dAI;dO;dAU
bSIGN ANUSVARA;cVIRAMA;cNUKTA;cSHADDA;bDANDA;bDOUBLE DANDA;bWORD SEPARATOR;bSECTION MARK
bDOUBLE SECTION MARK;bABBREVIATION SIGN;bSIGN SUKUN;@11280;aMULTANI LETTER A;cI;cU;cE;cKA;cKHA;cGA
@11288;cGHA;@1128A;cCA;cCHA;cJA;cJJA;@1128F;cNYA;cTTA;cTTHA;cDDA;cDDDA;cDDHA;cNNA;cTA;cTHA;cDA
cDHA;cNA;cPA;cPHA;cBA;@1129F;cBHA;cMA;cYA;cRA;cLA;cVA;cSA;cHA;cRRA;cRHA;bSECTION MARK;@112B0
aKHUDAWADI LETTER A;cAA;cI;cII;cU;cUU;cE;cAI;cO;cAU;cKA;cKHA;cGA;cGGA;cGHA;cNGA;cCA;cCHA;cJA;cJJA
cJHA;cNYA;cTTA;cTTHA;cDDA;cDDDA;cRRA;cDDHA;cNNA;cTA;cTHA;cDA;cDHA;cNA;cPA;cPHA;cBA;cBBA;cBHA;cMA
cYA;cRA;cLA;cVA;cSHA;cSA;cHA;bSIGN ANUSVARA;bVOWEL SIGN AA;dI;dII;dU;dUU;dE;dAI;dO;dAU;bSIGN NUKTA
cVIRAMA;@112F0;bDIGIT ZERO;cONE;cTWO;cTHREE;cFOUR;cFIVE;cSIX;cSEVEN;cEIGHT;cNINE;@11300
aGRANTHA SIGN COMBINING ANUSVARA ABOVE;cCANDRABINDU;cANUSVARA;cVISARGA;@11305;bLETTER A;cAA;cI;cII
cU;cUU;cVOCALIC R;dL;@1130F;cEE;cAI;@11313;cOO;cAU;cKA;cKHA;cGA;cGHA;cNGA;cCA;cCHA;cJA;cJHA;cNYA
cTTA;cTTHA;cDDA;cDDHA;cNNA;cTA;cTHA;cDA;cDHA;cNA;@1132A;cPA;cPHA;cBA;cBHA;cMA;cYA;cRA;@11332;cLA
cLLA;@11335;cVA;cSHA;cSSA;cSA;cHA;@1133B;aCOMBINING BINDU BELOW;aGRANTHA SIGN NUKTA;cAVAGRAHA
bVOWEL SIGN AA;dI;dII;dU;dUU;dVOCALIC R;eRR;@11347;dEE;dAI;@1134B;dOO;dAU;bSIGN VIRAMA;@11350;bOM
@11357;bAU LENGTH MARK;@1135D;bSIGN PLUTA;bLETTER VEDIC ANUSVARA;dDOUBLE ANUSVARA;cVOCALIC RR;dLL
bVOWEL SIGN VOCALIC L;eLL;@11366;aCOMBINING GRANTHA DIGIT ZERO;dONE;dTWO;dTHREE;dFOUR;dFIVE;dSIX
@11370;cLETTER A;dKA;dNA;dVI;dPA;@11400;aNEWA LETTER A;cAA;cI;cII;cU;cUU;cVOCALIC R;dRR;dL;dLL;cE
cAI;cO;cAU;cKA;cKHA;cGA;cGHA;cNGA;cNGHA;cCA;cCHA;cJA;cJHA;cNYA;cNYHA;cTTA;cTTHA;cDDA;cDDHA;cNNA
cTA;cTHA;cDA;cDHA;cNA;cNHA;cPA;cPHA;cBA;cBHA;cMA;cMHA;cYA;cRA;cRHA;cLA;cLHA;cWA;cSHA;cSSA;cSA;cHA
bVOWEL SIGN AA;dI;dII;dU;dUU;dVOCALIC R;eRR;eL;eLL;dE;dAI;dO;dAU;bSIGN VIRAMA;cCANDRABINDU
cANUSVARA;cVISARGA;cNUKTA;cAVAGRAHA;cFINAL ANUSVARA;bOM;bSIDDHI;bDANDA;bDOUBLE DANDA;bCOMMA
bGAP FILLER;bABBREVIATION SIGN;bDIGIT ZERO;cONE;cTWO;cTHREE;cFOUR;cFIVE;cSIX;cSEVEN;cEIGHT;cNINE
bDOUBLE COMMA;bPLACEHOLDER MARK;@1145D;bINSERTION SIGN;bSANDHI MARK;bLETTER VEDIC ANUSVARA
bSIGN JIHVAMULIYA;cUPADHMANIYA;@11480;aTIRHUTA ANJI;bLETTER A;cAA;cI;cII;cU;cUU;cVOCALIC R;dRR;dL
dLL;cE;cAI;cO;cAU;cKA;cKHA;cGA;cGHA;cNGA;cCA;cCHA;cJA;cJHA;cNYA;cTTA;cTTHA;cDDA;cDDHA;cNNA;cTA
cTHA;cDA;cDHA;cNA;cPA;cPHA;cBA;cBHA;cMA;cYA;cRA;cLA;cVA;cSHA;cSSA;cSA;cHA;bVOWEL SIGN AA;dI;dII;dU
dUU;dVOCALIC R;eRR;eL;eLL;dE;dSHORT E;dAI;dO;dSHORT O;dAU;bSIGN CANDRABINDU;cANUSVARA;cVISARGA
cVIRAMA;cNUKTA;cAVAGRAHA;bGVANG;bABBREVIATION SIGN;bOM;@114D0;bDIGIT ZERO;cONE;cTWO;cTHREE;cFOUR
cFIVE;cSIX;cSEVEN;cEIGHT;cNINE;@11580;aSIDDHAM LETTER A;cAA;cI;cII;cU;cUU;cVOCALIC R;dRR;dL;dLL;cE
cAI;cO;cAU;cKA;cKHA;cGA;cGHA;cNGA;cCA;cCHA;cJA;cJHA;cNYA;cTTA;cTTHA;cDDA;cDDHA;cNNA;cTA;cTHA;cDA
cDHA;cNA;cPA;cPHA;cBA;cBHA;cMA;cYA;cRA;cLA;cVA;cSHA;cSSA;cSA;cHA;bVOWEL SIGN AA;dI;dII;dU;dUU
dVOCALIC R;eRR;@115B8;dE;dAI;dO;dAU;bSIGN CANDRABINDU;cANUSVARA;cVISARGA;cVIRAMA;cNUKTA;cSIDDHAM
bDANDA;bDOUBLE DANDA;bSEPARATOR DOT;cBAR;bREPETITION MARK-1;cMARK-2;cMARK-3;bEND OF TEXT MARK
bSECTION MARK WITH TRIDENT AND U-SHAPED ORNAMENTS;gDOTTED CRESCENTS;eRAYS AND DOTTED CRESCENTS
hDOUBLE CRESCENTS;hTRIPLE CRESCENTS;dDOUBLE RING;fWITH RAYS;dWITH DOUBLE CRESCENTS
eTRIPLE CRESCENTS;eQUADRUPLE CRESCENTS;eSEPTUPLE CRESCENTS;eCIRCLES AND RAYS;gTWO ENCLOSURES
gFOUR ENCLOSURES;bLETTER THREE-CIRCLE ALTERNATE I;cTWO-CIRCLE ALTERNATE I;eII;cALTERNATE U
bVOWEL SIGN ALTERNATE U;eUU;@11600;aMODI LETTER A;cAA;cI;cII;cU;cUU;cVOCALIC R;dRR;dL;dLL;cE;cAI
cO;cAU;cKA;cKHA;cGA;cGHA;cNGA;cCA;cCHA;cJA;cJHA;cNYA;cTTA;cTTHA;cDDA;cDDHA;cNNA;cTA;cTHA;cDA;cDHA
cNA;cPA;cPHA;cBA;cBHA;cMA;cYA;cRA;cLA;cVA;cSHA;cSSA;cSA;cHA;cLLA;bVOWEL SIGN AA;dI;dII;dU;dUU
dVOCALIC R;eRR;eL;eLL;dE;dAI;dO;dAU;bSIGN ANUSVARA;cVISARGA;cVIRAMA;cARDHACANDRA;bDANDA
bDOUBLE DANDA;bABBREVIATION SIGN;bSIGN HUVA;@11650;bDIGIT ZERO;cONE;cTWO;cTHREE;cFOUR;cFIVE;cSIX
cSEVEN;cEIGHT;cNINE;@11660;aMONGOLIAN BIRGA WITH ORNAMENT;bROTATED BIRGA
bDOUBLE BIRGA WITH ORNAMENT;bTRIPLE BIRGA WITH ORNAMENT;bBIRGA WITH DOUBLE ORNAMENT
bROTATED BIRGA WITH ORNAMENT;eDOUBLE ORNAMENT;bINVERTED BIRGA;dWITH DOUBLE ORNAMENT;bSWIRL BIRGA
dWITH ORNAMENT;eDOUBLE ORNAMENT;bTURNED SWIRL BIRGA WITH DOUBLE ORNAMENT;@11680;aTAKRI LETTER A
cAA;cI;cII;cU;cUU;cE;cAI;cO;cAU;cKA;cKHA;cGA;cGHA;cNGA;cCA;cCHA;cJA;cJHA;cNYA;cTTA;cTTHA;cDDA
cDDHA;cNNA;cTA;cTHA;cDA;cDHA;cNA;cPA;cPHA;cBA;cBHA;cMA;cYA;cRA;cLA;cVA;cSHA;cSA;cHA;cRRA
bSIGN ANUSVARA;cVISARGA;bVOWEL SIGN AA;dI;dII;dU;dUU;dE;dAI;dO;dAU;bSIGN VIRAMA;cNUKTA
bLETTER ARCHAIC KHA;bABBREVIATION SIGN;@116C0;bDIGIT ZERO;cONE;cTWO;cTHREE;cFOUR;cFIVE;cSIX;cSEVEN
cEIGHT;cNINE;@11700;aAHOM LETTER KA;cKHA;cNGA;cNA;cTA;cALTERNATE TA;cPA;cPHA;cBA;cMA;cJA;cCHA;cTHA
cRA;cLA;cSA;cNYA;cHA;cA;cDA;cDHA;cGA;cALTERNATE GA;cGHA;cBHA;cJHA;cALTERNATE BA;@1171D
bCONSONANT SIGN MEDIAL LA;eRA;eLIGATING RA;bVOWEL SIGN A;dAA;dI;dII;dU;dUU;dE;dAW;dO;dAI;dAM
bSIGN KILLER;@11730;bDIGIT ZERO;cONE;cTWO;cTHREE;cFOUR;cFIVE;cSIX;cSEVEN;cEIGHT;cNINE;bNUMBER TEN
cTWENTY;bSIGN SMALL SECTION;cSECTION;cRULAI;bSYMBOL VI;bLETTER CA;cTTA;cTTHA;cDDA;cDDHA;cNNA;cLLA
@11800;aDOGRA LETTER A;cAA;cI;cII;cU;cUU;cE;cAI;cO;cAU;cKA;cKHA;cGA;cGHA;cNGA;cCA;cCHA;cJA;cJHA
cNYA;cTTA;cTTHA;cDDA;cDDHA;cNNA;cTA;cTHA;cDA;cDHA;cNA;cPA;cPHA;cBA;cBHA;cMA;cYA;cRA;cLA;cVA;cSHA
cSSA;cSA;cHA;cRRA;bVOWEL SIGN AA;dI;dII;dU;dUU;dVOCALIC R;eRR;dE;dAI;dO;dAU;bSIGN ANUSVARA
cVISARGA;cVIRAMA;cNUKTA;bABBREVIATION SIGN;@118A0;aWARANG CITI CAPITAL LETTER NGAA;eA;eWI;eYU;eYA
eYO;eII;eUU;eE;eO;eANG;eGA;eKO;eENY;eYUJ;eUC;eENN;eODD;eTTE;eNUNG;eDA;eAT;eAM;eBU;ePU;eHIYO;eHOLO
eHORR;eHAR;eSSUU;eSII;eVIYO;cSMALL LETTER NGAA;eA;eWI;eYU;eYA;eYO;eII;eUU;eE;eO;eANG;eGA;eKO;eENY
eYUJ;eUC;eENN;eODD;eTTE;eNUNG;eDA;eAT;eAM;eBU;ePU;eHIYO;eHOLO;eHORR;eHAR;eSSUU;eSII;eVIYO
cDIGIT ZERO;dONE;dTWO;dTHREE;dFOUR;dFIVE;dSIX;dSEVEN;dEIGHT;dNINE;cNUMBER TEN;dTWENTY;dTHIRTY
dFORTY;dFIFTY;dSIXTY;dSEVENTY;dEIGHTY;dNINETY;@118FF;cOM;aDIVES AKURU LETTER A;dAA;dI;dII;dU;dUU
dE;@11909;dO;@1190C;dKA;dKHA;dGA;dGHA;dNGA;dCA;dCHA;dJA;@11915;dNYA;dTTA;@11918;dDDA;dDDHA;dNNA
dTA;dTHA;dDA;dDHA;dNA;dPA;dPHA;dBA;dBHA;dMA;dYA;dYYA;dRA;dLA;dVA;dSHA;dSSA;dSA;dHA;dLLA;dZA
cVOWEL SIGN AA;eI;eII;eU;eUU;eE;@11937;eAI;eO;@1193B;cSIGN ANUSVARA;dCANDRABINDU;dHALANTA;cVIRAMA
cPREFIXED NASAL SIGN;cMEDIAL YA;cINITIAL RA;cMEDIAL RA;cSIGN NUKTA;cDOUBLE DANDA;cGAP FILLER
cEND OF TEXT MARK;@11950;cDIGIT ZERO;dONE;dTWO;dTHREE;dFOUR;dFIVE;dSIX;dSEVEN;dEIGHT;dNINE;@119A0
aNANDINAGARI LETTER A;cAA;cI;cII;cU;cUU;cVOCALIC R;dRR;@119AA;cE;cAI;cO;cAU;cKA;cKHA;cGA;cGHA;cNGA
cCA;cCHA;cJA;cJHA;cNYA;cTTA;cTTHA;cDDA;cDDHA;cNNA;cTA;cTHA;cDA;cDHA;cNA;cPA;cPHA;cBA;cBHA;cMA;cYA
cRA;cLA;cVA;cSHA;cSSA;cSA;cHA;cLLA;cRRA;bVOWEL SIGN AA;dI;dII;dU;dUU;dVOCALIC R;eRR;@119DA;dE;dAI
dO;dAU;bSIGN ANUSVARA;cVISARGA;cVIRAMA;cAVAGRAHA;cSIDDHAM;bHEADSTROKE;bVOWEL SIGN PRISHTHAMATRA E
@11A00;aZANABAZAR SQUARE LETTER A;cVOWEL SIGN I;eUE;eU;eE;eOE;eO;eAI;eAU;eREVERSED I;dLENGTH MARK
cLETTER KA;dKHA;dGA;dGHA;dNGA;dCA;dCHA;dJA;dNYA;dTTA;dTTHA;dDDA;dDDHA;dNNA;dTA;dTHA;dDA;dDHA;dNA
dPA;dPHA;dBA;dBHA;dMA;dTSA;dTSHA;dDZA;dDZHA;dZHA;dZA;d-A;dYA;dRA;dLA;dVA;dSHA;dSSA;dSA;dHA;dKSSA
cFINAL CONSONANT MARK;cSIGN VIRAMA;dCANDRABINDU;eWITH ORNAMENT;dCANDRA WITH ORNAMENT;dANUSVARA
dVISARGA;cCLUSTER-INITIAL LETTER RA;cCLUSTER-FINAL LETTER YA;eRA;eLA;eVA;cINITIAL HEAD MARK
cCLOSING HEAD MARK;cMARK TSHEG;dSHAD;dDOUBLE SHAD;dLONG TSHEG;cINITIAL DOUBLE-LINED HEAD MARK
cCLOSING DOUBLE-LINED HEAD MARK;cSUBJOINER;@11A50;aSOYOMBO LETTER A;bVOWEL SIGN I;dUE;dU;dE;dO;dOE
dAI;dAU;dVOCALIC R;eL;cLENGTH MARK;bLETTER KA;cKHA;cGA;cGHA;cNGA;cCA;cCHA;cJA;cJHA;cNYA;cTTA;cTTHA
cDDA;cDDHA;cNNA;cTA;cTHA;cDA;cDHA;cNA;cPA;cPHA;cBA;cBHA;cMA;cTSA;cTSHA;cDZA;cZHA;cZA;c-A;cYA;cRA
cLA;cVA;cSHA;cSSA;cSA;cHA;cKSSA;bSIGN JIHVAMULIYA;cUPADHMANIYA;bCLUSTER-INITIAL LETTER RA;dLA;dSHA
dSA;bFINAL CONSONANT SIGN G;eK;eNG;eD;eN;eB;eM;eR;eL;eSH;eS;e-A;bSIGN ANUSVARA;cVISARGA
bGEMINATION MARK;bSUBJOINER;bMARK TSHEG;cSHAD;cDOUBLE SHAD;cPLUTA
bHEAD MARK WITH MOON AND SUN AND TRIPLE FLAME;iFLAME;gSUN;bTERMINAL MARK-1;cMARK-2;@11AB0
aCANADIAN SYLLABICS NATTILIK HI;dHII;dHO;dHOO;dHA;dHAA;dSHRI;dSHRII;dSHRO;dSHROO;dSHRA;dSHRAA;cSPE
cSPI;cSPO;cSPA;aPAU CIN HAU LETTER PA;eKA;eLA;eMA;eDA;eZA;eVA;eNGA;eHA;eGA;eKHA;eSA;eBA;eCA;eTA
eTHA;eNA;ePHA;eRA;eFA;eCHA;eA;eE;eI;eO;eU;eUA;eIA;eFINAL P;fK;fT;fM;fN;fL;fW;fNG;fY
dRISING TONE LONG;eTONE;dSANDHI GLOTTAL STOP;dRISING TONE LONG FINAL;fFINAL
dSANDHI GLOTTAL STOP FINAL;eTONE LONG;eTONE;fLONG FINAL;fFINAL;dMID-LEVEL TONE
dGLOTTAL STOP VARIANT;dMID-LEVEL TONE LONG FINAL;fFINAL;dLOW-FALLING TONE LONG;eTONE;dGLOTTAL STOP
dLOW-FALLING TONE LONG FINAL;fFINAL;dGLOTTAL STOP FINAL;@11C00;aBHAIKSUKI LETTER A;cAA;cI;cII;cU
cUU;cVOCALIC R;dRR;dL;@11C0A;cE;cAI;cO;cAU;cKA;cKHA;cGA;cGHA;cNGA;cCA;cCHA;cJA;cJHA;cNYA;cTTA
cTTHA;cDDA;cDDHA;cNNA;cTA;cTHA;cDA;cDHA;cNA;cPA;cPHA;cBA;cBHA;cMA;cYA;cRA;cLA;cVA;cSHA;cSSA;cSA
cHA;bVOWEL SIGN AA;dI;dII;dU;dUU;dVOCALIC R;eRR;eL;@11C38;dE;dAI;dO;dAU;bSIGN CANDRABINDU
cANUSVARA;cVISARGA;cVIRAMA;cAVAGRAHA;bDANDA;bDOUBLE DANDA;bWORD SEPARATOR;bGAP FILLER-1;cFILLER-2
@11C50;bDIGIT ZERO;cONE;cTWO;cTHREE;cFOUR;cFIVE;cSIX;cSEVEN;cEIGHT;cNINE;bNUMBER ONE;cTWO;cTHREE
cFOUR;cFIVE;cSIX;cSEVEN;cEIGHT;cNINE;cTEN;cTWENTY;cTHIRTY;cFORTY;cFIFTY;cSIXTY;cSEVENTY;cEIGHTY
cNINETY;bHUNDREDS UNIT MARK;@11C70;aMARCHEN HEAD MARK;bMARK SHAD;bLETTER KA;cKHA;cGA;cNGA;cCA;cCHA
cJA;cNYA;cTA;cTHA;cDA;cNA;cPA;cPHA;cBA;cMA;cTSA;cTSHA;cDZA;cWA;cZHA;cZA;c-A;cYA;cRA;cLA;cSHA;cSA
cHA;cA;@11C92;bSUBJOINED LETTER KA;dKHA;dGA;dNGA;dCA;dCHA;dJA;dNYA;dTA;dTHA;dDA;dNA;dPA;dPHA;dBA
dMA;dTSA;dTSHA;dDZA;dWA;dZHA;dZA;@11CA9;dYA;dRA;dLA;dSHA;dSA;dHA;dA;bVOWEL SIGN AA;dI;dU;dE;dO
bSIGN ANUSVARA;cCANDRABINDU;@11D00;aMASARAM GONDI LETTER A;dAA;dI;dII;dU;dUU;dE;@11D08;dAI;dO
@11D0B;dAU;dKA;dKHA;dGA;dGHA;dNGA;dCA;dCHA;dJA;dJHA;dNYA;dTTA;dTTHA;dDDA;dDDHA;dNNA;dTA;dTHA;dDA
dDHA;dNA;dPA;dPHA;dBA;dBHA;dMA;dYA;dRA;dLA;dVA;dSHA;dSSA;dSA;dHA;dLLA;dKSSA;dJNYA;dTRA
cVOWEL SIGN AA;eI;eII;eU;eUU;eVOCALIC R;@11D3A;eE;@11D3C;eAI;eO;@11D3F;eAU;cSIGN ANUSVARA;dVISARGA
dNUKTA;dCANDRA;dHALANTA;cVIRAMA;cREPHA;cRA-KARA;@11D50;cDIGIT ZERO;dONE;dTWO;dTHREE;dFOUR;dFIVE
dSIX;dSEVEN;dEIGHT;dNINE;@11D60;aGUNJALA GONDI LETTER A;dAA;dI;dII;dU;dUU;@11D67;dEE;dAI;@11D6A
dOO;dAU;dYA;dVA;dBA;dBHA;dMA;dKA;dKHA;dTA;dTHA;dLA;dGA;dGHA;dDA;dDHA;dNA;dCA;dCHA;dTTA;dTTHA;dLLA
dJA;dJHA;dDDA;dDDHA;dNGA;dPA;dPHA;dHA;dRA;dSA;cVOWEL SIGN AA;eI;eII;eU;eUU;@11D90;eEE;eAI;@11D93
eOO;eAU;cSIGN ANUSVARA;dVISARGA;cVIRAMA;cOM;@11DA0;cDIGIT ZERO;dONE;dTWO;dTHREE;dFOUR;dFIVE;dSIX
dSEVEN;dEIGHT;dNINE;@11EE0;aMAKASAR LETTER KA;cGA;cNGA;cPA;cBA;cMA;cTA;cDA;cNA;cCA;cJA;cNYA;cYA
cRA;cLA;cVA;cSA;cA;bANGKA;bVOWEL SIGN I;dU;dE;dO;bPASSIMBANG;bEND OF SECTION;@11FB0
aLISU LETTER YHA;@11FC0;aTAMIL FRACTION ONE THREE-HUNDRED-AND-TWENTIETH;dONE-HUNDRED-AND-SIXTIETH
dEIGHTIETH;dSIXTY-FOURTH;dFORTIETH;dTHIRTY-SECOND;cTHREE EIGHTIETHS;dSIXTY-FOURTHS;cONE TWENTIETH
dSIXTEENTH-1;dSIXTEENTH-2;dTENTH;dEIGHTH;cTHREE TWENTIETHS;dSIXTEENTHS;cONE FIFTH;dQUARTER;dHALF-1
dHALF-2;cTHREE QUARTERS;cDOWNSCALING FACTOR KIIZH;bSIGN NEL;cCEVITU;cAAZHAAKKU;cUZHAKKU
cMUUVUZHAKKU;cKURUNI;cPATHAKKU;cMUKKURUNI;cKAACU;cPANAM;cPON;cVARAAKAN;cPAARAM;cKUZHI;cVELI
bWET CULTIVATION SIGN;bDRY CULTIVATION SIGN;bLAND SIGN;bSALT PAN SIGN;bTRADITIONAL CREDIT SIGN
cNUMBER SIGN;bCURRENT SIGN;bAND ODD SIGN;bSPENT SIGN;bTOTAL SIGN;bIN POSSESSION SIGN
bSTARTING FROM SIGN;bSIGN MUTHALIYA;cVAKAIYARAA;@11FFF;bPUNCTUATION END OF TEXT;aCUNEIFORM SIGN A
dTIMES A;eBAD;eGAN2 TENU;eHA;eIGI;eLAGAR GUNU;eMUSH;eSAG;cA2;cAB;dTIMES ASH2;eDUN3 GUNU;eGAL
eGAN2 TENU;eHA;eIGI GUNU;eIMIN;eLAGAB;eSHESH;eU PLUS U PLUS U;dGUNU;cAB2;dTIMES BALAG;eGAN2 TENU
eME PLUS EN;eSHA3;eTAK4;cAD;cAK;dTIMES ERIN2;eSHITA PLUS GISH;cAL;dTIMES AL;eDIM2;eGISH;eHA;eKAD3
eKI;eSHE;eUSH;cALAN;cALEPH;cAMAR;dTIMES SHE;cAN;dOVER AN;dTHREE TIMES
dPLUS NAGA OPPOSING AN PLUS NAGA;fSQUARED;cANSHE;cAPIN;cARAD;dTIMES KUR;cARKAB;cASAL2;cASH
dZIDA TENU;dKABA TENU;dOVER ASH TUG2 OVER TUG2 TUG2 OVER TUG2 PAP;fOVER ASH
hCROSSING ASH OVER ASH OVER ASH;cASH2;cASHGAB;cBA;cBAD;cBAG3;cBAHAR2;cBAL;dOVER BAL;cBALAG;cBAR
cBARA2;cBI;dTIMES A;eGAR;eIGI GUNU;cBU;dOVER BU AB;fUN;dCROSSING BU;cBULUG;dOVER BULUG;cBUR;cBUR2
cDA;cDAG;dKISIM5 TIMES A PLUS MASH;fAMAR;fBALAG;fBI;fGA;gPLUS MASH;fGI;fGIR2;fGUD;fHA;fIR;gPLUS LU
fKAK;fLA;fLU;gPLUS MASH2;fLUM;fNE;fPAP PLUS PAP;fSI;fTAK4;fU2 PLUS GIR2;fUSH;cDAM;cDAR;cDARA3
cDARA4;cDI;cDIB;cDIM;dTIMES SHE;cDIM2;cDIN;dKASKAL U GUNU DISH;cDISH;cDU;dOVER DU;dGUNU;dSHESHIG
cDUB;dTIMES ESH2;cDUB2;cDUG;cDUGUD;cDUH;cDUN;cDUN3;dGUNU;eGUNU;cDUN4;cDUR2;cE;dTIMES PAP
dOVER E NUN OVER NUN;cE2;dTIMES A PLUS HA PLUS DA;eGAR;eMI;eSAL;eSHE;eU;cEDIN;cEGIR;cEL;cEN
dTIMES GAN2;fTENU;eME;dCROSSING EN;dOPPOSING EN;dSQUARED;cEREN;cERIN2;cESH2;cEZEN;dTIMES A
fPLUS LAL;hTIMES LAL;eAN;eBAD;eDUN3 GUNU;gGUNU;eHA;fGUNU;eIGI GUNU;eKASKAL;fSQUARED;eKU3;eLA
eLAL TIMES LAL;eLI;eLU;eU2;eUD;cGA;dGUNU;cGA2;dTIMES A PLUS DA PLUS HA;gHA;gIGI;eAB2 TENU PLUS TAB
eAN;eASH;eASH2 PLUS GAL;eBAD;eBAR PLUS RA;eBUR;fPLUS RA;eDA;eDI;eDIM TIMES SHE;eDUB;eEL;fPLUS LA
eEN;fTIMES GAN2 TENU;eGAN2 TENU;eGAR;eGI;eGI4;fPLUS A;eGIR2 PLUS SU;eHA PLUS LU PLUS ESH2;eHAL
fPLUS LA;eHI PLUS LI;eHUB2;eIGI GUNU;eISH PLUS HU PLUS ASH;eKAK;eKASKAL;eKID;fPLUS LAL
eKU3 PLUS AN;eLA;eME PLUS EN;eMI;eNUN;fOVER NUN;ePA;eSAL;eSAR;eSHE;fPLUS TUR;eSHID;eSUM;eTAK4;eU
eUD;fPLUS DU;dOVER GA2;cGABA;dCROSSING GABA;cGAD;dOVER GAD GAR OVER GAR;cGAL
dGAD OVER GAD GAR OVER GAR;cGALAM;cGAM;cGAN;cGAN2;dTENU;dOVER GAN2;dCROSSING GAN2;cGAR;cGAR3
cGASHAN;cGESHTIN;dTIMES KUR;cGI;dTIMES E;eU;dCROSSING GI;cGI4;dOVER GI4;dCROSSING GI4;cGIDIM;cGIR2
dGUNU;cGIR3;dTIMES A PLUS IGI;eGAN2 TENU;eIGI;eLU PLUS IGI;ePA;cGISAL;cGISH;dCROSSING GISH
dTIMES BAD;eTAK4;dTENU;cGU;dCROSSING GU;cGU2;dTIMES KAK;fTIMES IGI GUNU;eNUN;eSAL PLUS TUG2;dGUNU
cGUD;dTIMES A PLUS KUR;eKUR;dOVER GUD LUGAL;cGUL;cGUM;dTIMES SHE;cGUR;cGUR7;cGURUN;cGURUSH;cHA
dTENU;dGUNU;cHAL;cHI;dTIMES ASH;eASH2;eBAD;eDISH;eGAD;eKIN;eNUN;eSHE;eU;cHU;cHUB2;dTIMES AN;eHAL
eKASKAL;eLISH;eUD;cHUL2;cI;dA;cIB;cIDIM;dOVER IDIM BUR;fSQUARED;cIG;cIGI;dDIB;dRI
dOVER IGI SHIR OVER SHIR UD OVER UD;dGUNU;cIL;dTIMES GAN2 TENU;cIL2;cIM;dTIMES TAK4;dCROSSING IM
dOPPOSING IM;dSQUARED;cIMIN;cIN;cIR;cISH;cKA;dTIMES A;eAD;fPLUS KU3;eASH2;eBAD;eBALAG;eBAR;eBI
eERIN2;eESH2;eGA;eGAL;eGAN2 TENU;eGAR;fPLUS SHA3 PLUS A;eGI;eGIR2;eGISH PLUS SAR;fCROSSING GISH
eGU;eGUR7;eIGI;eIM;eKAK;eKI;eKID;eLI;eLU;eME;fPLUS DU;gGI;gTE;eMI;fPLUS NUNUZ;eNE;eNUN;ePI;eRU;eSA
eSAR;eSHA;eSHE;eSHID;eSHU;eSIG;eSUHUR;eTAR;eU;eU2;eUD;eUMUM TIMES PA;eUSH;eZI;cKA2;dCROSSING KA2
cKAB;cKAD2;cKAD3;cKAD4;cKAD5;dOVER KAD5;cKAK;dTIMES IGI GUNU;cKAL;dTIMES BAD;dCROSSING KAL;cKAM2
cKAM4;cKASKAL;dLAGAB TIMES U OVER LAGAB TIMES U;dOVER KASKAL LAGAB TIMES U OVER LAGAB TIMES U
cKESH2;cKI;dTIMES BAD;eU;eUD;cKID;cKIN;cKISAL;cKISH;cKISIM5;dOVER KISIM5;cKU
dOVER HI TIMES ASH2 KU OVER HI TIMES ASH2;cKU3;cKU4;dVARIANT FORM;cKU7;cKUL;dGUNU;cKUN;cKUR
dOPPOSING KUR;cKUSHU2;cKWU318;cLA;cLAGAB;dTIMES A;fPLUS DA PLUS HA;gGAR;gLAL;eAL;eAN
eASH ZIDA TENU;eBAD;eBI;eDAR;eEN;eGA;eGAR;eGUD;fPLUS GUD;eHA;eHAL;eHI TIMES NUN;eIGI GUNU;eIM
fPLUS HA;gLU;eKI;eKIN;eKU3;eKUL;fPLUS HI PLUS A;eLAGAB;eLISH;eLU;eLUL;eME;fPLUS EN;eMUSH;eNE
eSHE PLUS SUM;eSHITA PLUS GISH PLUS ERIN2;hTENU;eSHU2;fPLUS SHU2;eSUM;eTAG;eTAK4
eTE PLUS A PLUS SU PLUS NA;eU;fPLUS A;gU PLUS U;eU2 PLUS ASH;eUD;eUSH;dSQUARED;cLAGAR;dTIMES SHE
fPLUS SUM;dGUNU;eOVER LAGAR GUNU SHE;cLAHSHU;cLAL;dTIMES LAL;cLAM;dTIMES KUR;fPLUS RU;cLI;cLIL
cLIMMU2;cLISH;cLU;dTIMES BAD;cLU2;dTIMES AL;eBAD;eESH2;fTENU;eGAN2 TENU;eHI TIMES BAD;eIM;eKAD2
eKAD3;fPLUS ASH;eKI;eLA PLUS ASH;eLAGAB;eME PLUS EN;eNE;eNU;eSI PLUS ASH;eSIK2 PLUS BU;eTUG2;dTENU
dCROSSING LU2;dOPPOSING LU2;dSQUARED;dSHESHIG;cLU3;cLUGAL;dOVER LUGAL;dOPPOSING LUGAL;dSHESHIG
cLUH;cLUL;cLUM;dOVER LUM;fGAR OVER GAR;cMA;dTIMES TAK4;dGUNU;cMA2;cMAH;cMAR;cMASH;cMASH2;cME;cMES
cMI;cMIN;cMU;dOVER MU;cMUG;dGUNU;cMUNSUB;cMURGU2;cMUSH;dTIMES A;eKUR;eZA;dOVER MUSH
fTIMES A PLUS NA;dCROSSING MUSH;cMUSH3;dTIMES A;fPLUS DI;eDI;dGUNU;cNA;cNA2;cNAGA;dINVERTED
dTIMES SHU TENU;dOPPOSING NAGA;cNAGAR;cNAM NUTILLU;cNAM;cNAM2;cNE;dTIMES A;eUD;dSHESHIG;cNI
dTIMES E;cNI2;cNIM;dTIMES GAN2 TENU;eGAR PLUS GAN2 TENU;cNINDA2;dTIMES AN;eASH;fPLUS ASH;eGUD
eME PLUS GAN2 TENU;eNE;eNUN;eSHE;fPLUS A AN;gASH;hPLUS ASH;eU2 PLUS ASH;eUSH;cNISAG;cNU;cNU11;cNUN
dLAGAR TIMES GAR;fMASH;fSAL;gOVER NUN LAGAR TIMES SAL;fUSH;dTENU;dOVER NUN;dCROSSING NUN
fLAGAR OVER LAGAR;cNUNUZ;dAB2 TIMES ASHGAB;fBI;fDUG;fGUD;fIGI GUNU;fKAD3;fLA;fNE;fSILA3;fU2
dKISIM5 TIMES BI;gU;cPA;cPAD;cPAN;cPAP;cPESH2;cPI;dTIMES A;eAB;eBI;eBU;eE;eI;eIB;eU;eU2
dCROSSING PI;cPIRIG;dTIMES KAL;eUD;eZA;dOPPOSING PIRIG;cRA;cRAB;cRI;cRU;cSA;cSAG NUTILLU;cSAG
dTIMES A;eDU;eDUB;eHA;eKAK;eKUR;eLUM;eMI;eNUN;eSAL;eSHID;eTAB;eU2;eUB;eUM;eUR;eUSH;dOVER SAG;dGUNU
cSAL;dLAGAB TIMES ASH2;cSANGA2;cSAR;cSHA;cSHA3;dTIMES A;eBAD;eGISH;eNE;eSHU2;eTUR;eU;fPLUS A;cSHA6
cSHAB6;cSHAR2;cSHE;dHU;dOVER SHE GAD OVER GAD GAR OVER GAR;fTAB OVER TAB GAR OVER GAR;cSHEG9;cSHEN
cSHESH;cSHESH2;cSHESHLAM;cSHID;dTIMES A;eIM;cSHIM;dTIMES A;eBAL;eBULUG;eDIN;eGAR;eIGI;fGUNU
eKUSHU2;eLUL;eMUG;eSAL;cSHINIG;cSHIR;dTENU;dOVER SHIR BUR OVER BUR;cSHITA;cSHU;dOVER INVERTED SHU
cSHU2;cSHUBUR;cSI;dGUNU;cSIG;cSIG4;dOVER SIG4 SHU2;cSIK2;cSILA3;cSU;dOVER SU;cSUD;cSUD2;cSUHUR
cSUM;cSUMASH;cSUR;cSUR9;cTA;dASTERISK;dTIMES HI;eMI;dGUNU;cTAB;dOVER TAB NI OVER NI DISH OVER DISH
dSQUARED;cTAG;dTIMES BI;eGUD;eSHE;eSHU;eTUG2;eUD;cTAK4;cTAR;cTE;dGUNU;cTI;dTENU;cTIL;cTIR
dTIMES TAK4;dOVER TIR;fGAD OVER GAD GAR OVER GAR;cTU;cTUG2;cTUK;cTUM;cTUR;dOVER TUR ZA OVER ZA;cU
dGUD;dU U;dOVER U PA OVER PA GAR OVER GAR;fSUR OVER SUR;fU REVERSED OVER U REVERSED;cU2;cUB;cUD
dKUSHU2;dTIMES BAD;eMI;eU PLUS U PLUS U;jGUNU;dGUNU;dSHESHIG;eTIMES BAD;cUDUG;cUM;dTIMES LAGAB
eME PLUS DA;eSHA3;eU;cUMBIN;cUMUM;dTIMES KASKAL;ePA;cUN;dGUNU;cUR;dCROSSING UR;dSHESHIG;cUR2
dTIMES A PLUS HA;gNA;eAL;eHA;eNUN;eU2;fPLUS ASH;gBI;cUR4;cURI;cURI3;cURU;dTIMES A;eASHGAB;eBAR
eDUN;eGA;eGAL;eGAN2 TENU;eGAR;eGU;eHA;eIGI;eIM;eISH;eKI;eLUM;eMIN;ePA;eSHE;eSIG4;eTU;eU PLUS GUD
eUD;eURUDA;cURUDA;dTIMES U;cUSH;dTIMES A;eKU;eKUR;eTAK4;cUSHX;cUSH2;cUSHUMX;cUTUKI;cUZ3
dTIMES KASKAL;cUZU;cZA;dTENU;dSQUARED TIMES KUR;cZAG;cZAMX;cZE2;cZI;dOVER ZI;cZI3;cZIB;dKABA TENU
cZIG;cZIZ2;cZU;cZU5;dTIMES A;cZUBUR;cZUM;cKAP ELAMITE;cAB TIMES NUN;cAB2 TIMES A;cAMAR TIMES KUG
cDAG KISIM5 TIMES U2 PLUS MASH;cDAG3;cDISH PLUS SHU;cDUB TIMES SHE;cEZEN TIMES GUD;eSHE
cGA2 TIMES AN PLUS KAK PLUS A;eASH2;cGE22;cGIG;cHUSH;cKA TIMES ANSHE;eASH3;eGISH;eGUD
eHI TIMES ASH2;eLUM;ePA;eSHUL;eTU;eUR2;cLAGAB TIMES GI;cLU2 SHESHIG TIMES BAD;dTIMES ESH2 PLUS LAL
eSHU;cMESH;cMUSH3 TIMES ZA;cNA4;cNIN;cNIN9;cNINDA2 TIMES BAL;eGI;cNU11 ROTATED NINETY DEGREES
cPESH2 ASTERISK;cPIR2;cSAG TIMES IGI GUNU;cTI2;cUM TIMES ME;cU U;@12400;bNUMERIC SIGN TWO ASH
dTHREE ASH;dFOUR ASH;dFIVE ASH;dSIX ASH;dSEVEN ASH;dEIGHT ASH;dNINE ASH;dTHREE DISH;dFOUR DISH
dFIVE DISH;dSIX DISH;dSEVEN DISH;dEIGHT DISH;dNINE DISH;dFOUR U;dFIVE U;dSIX U;dSEVEN U;dEIGHT U
dNINE U;dONE GESH2;dTWO GESH2;dTHREE GESH2;dFOUR GESH2;dFIVE GESH2;dSIX GESH2;dSEVEN GESH2
dEIGHT GESH2;dNINE GESH2;dONE GESHU;dTWO GESHU;dTHREE GESHU;dFOUR GESHU;dFIVE GESHU;dTWO SHAR2
dTHREE SHAR2;fVARIANT FORM;dFOUR SHAR2;dFIVE SHAR2;dSIX SHAR2;dSEVEN SHAR2;dEIGHT SHAR2
dNINE SHAR2;dONE SHARU;dTWO SHARU;dTHREE SHARU;fVARIANT FORM;dFOUR SHARU;dFIVE SHARU
dSHAR2 TIMES GAL PLUS DISH;hMIN;dONE BURU;dTWO BURU;dTHREE BURU;fVARIANT FORM;dFOUR BURU
dFIVE BURU;dTHREE VARIANT FORM ESH16;gESH21;dFOUR VARIANT FORM LIMMU;gLIMMU4;gLIMMU A;hB
dSIX VARIANT FORM ASH9;dSEVEN VARIANT FORM IMIN3;gIMIN A;hB;dEIGHT VARIANT FORM USSU;gUSSU3
dNINE VARIANT FORM ILIMMU;gILIMMU3;gILIMMU4;gILIMMU A;dTWO ASH TENU;dTHREE ASH TENU;dFOUR ASH TENU
dFIVE ASH TENU;dSIX ASH TENU;dONE BAN2;dTWO BAN2;dTHREE BAN2;dFOUR BAN2;fVARIANT FORM;dFIVE BAN2
fVARIANT FORM;dNIGIDAMIN;dNIGIDAESH;dONE ESHE3;dTWO ESHE3;dONE THIRD DISH;dTWO THIRDS DISH
dFIVE SIXTHS DISH;dONE THIRD VARIANT FORM A;dTWO THIRDS VARIANT FORM A;dONE EIGHTH ASH
eQUARTER ASH;dOLD ASSYRIAN ONE SIXTH;gQUARTER;dONE QUARTER GUR;eHALF GUR;dELAMITE ONE THIRD
eTWO THIRDS;eFORTY;eFIFTY;dFOUR U VARIANT FORM;dFIVE U VARIANT FORM;dSIX U VARIANT FORM
dSEVEN U VARIANT FORM;dEIGHT U VARIANT FORM;dNINE U VARIANT FORM;@12470
bPUNCTUATION SIGN OLD ASSYRIAN WORD DIVIDER;dVERTICAL COLON;dDIAGONAL COLON;eTRICOLON;eQUADCOLON
@12480;bSIGN AB TIMES NUN TENU;eSHU2;cAD TIMES ESH2;cBAD TIMES DISH TENU;cBAHAR2 TIMES AB2;eNI;eZA
cBU OVER BU TIMES NA2;cDA TIMES TAK4;cDAG TIMES KUR;cDIM TIMES IGI;eU U U;cDIM2 TIMES UD
cDUG TIMES ANSHE;eASH;fAT LEFT;eDIN;eDUN;eERIN2;eGA;eGI;eGIR2 GUNU;eGISH;eHA;eHI;eIGI GUNU;eKASKAL
eKUR;eKUSHU2;fPLUS KASKAL;eLAK-020;eLAM;fTIMES KUR;eLUH PLUS GISH;eMASH;eMES;eMI;eNI;ePI;eSHE
eSI GUNU;cE2 TIMES KUR;ePAP;cERIN2 X;cESH2 CROSSING ESH2;cEZEN SHESHIG TIMES ASH;fHI;fIGI GUNU;fLA
fLAL;fME;fMES;fSU;dTIMES SU;cGA2 TIMES BAHAR2;eDIM GUNU;eDUG TIMES IGI GUNU;gKASKAL;eEREN;eGA
eGAR PLUS DI;gNE;eHA PLUS A;eKUSHU2 PLUS KASKAL;eLAM;fTIMES KUR;eLUH;eMUSH;eNE;fPLUS E2;gGI;eSHIM
eZIZ2;cGABA ROTATED NINETY DEGREES;cGESHTIN TIMES U;cGISH TIMES GISH CROSSING GISH
cGU2 TIMES IGI GUNU;cGUD PLUS GISH TIMES TAK4;cHA TENU GUNU;cHI TIMES ASH OVER HI TIMES ASH
cKA TIMES BU;eKA;eU U U;eUR;cLAGAB TIMES ZU OVER ZU;cLAK-003;cLAK-021;cLAK-025;cLAK-030;cLAK-050
cLAK-051;cLAK-062;cLAK-079 OVER LAK-079 GUNU;cLAK-080;cLAK-081 OVER LAK-081;cLAK-092;cLAK-130
cLAK-142;cLAK-210;cLAK-219;cLAK-220;cLAK-225;cLAK-228;cLAK-238;cLAK-265;cLAK-266;cLAK-343;cLAK-347
cLAK-348;cLAK-383;cLAK-384;cLAK-390;cLAK-441;cLAK-449;dTIMES GU;eIGI;ePAP PLUS LU3;gPAP PLUS LU3
eU2 PLUS BA;cLAK-450;cLAK-457;cLAK-470;cLAK-483;cLAK-490;cLAK-492;cLAK-493;cLAK-495;cLAK-550
cLAK-608;cLAK-617;dTIMES ASH;eBAD;eDUN3 GUNU GUNU;eKU3;eLA;eTAR;eTE;eU2;eUD;eURUDA;cLAK-636
cLAK-648;dTIMES DUB;eGA;eIGI;fGUNU;eNI;ePAP PLUS PAP PLUS LU3;eSHESH PLUS KI;eUD;eURUDA;cLAK-724
cLAK-749;cLU2 GUNU TIMES ASH;dTIMES DISH;eHAL;ePAP;fPLUS PAP PLUS LU3;eTAK4;cMI PLUS ZA7
cMUSH OVER MUSH TIMES GA;gKAK;cNINDA2 TIMES DIM GUNU;eGISH;eGUL;eHI;eKESH2;eLAK-050;eMASH
ePAP PLUS PAP;eU;fPLUS U;eURUDA;cSAG GUNU TIMES HA;dTIMES EN;eSHE AT LEFT;eTAK4;cSHA6 TENU
cSHE OVER SHE;dPLUS HUB2;eNAM2;eSAR;cSHU2 PLUS DUG TIMES NI;eE2 TIMES AN;cSI TIMES TAK4
cTAK4 PLUS SAG;cTUM TIMES GAN2 TENU;eTHREE DISH;cUR2 INVERTED;dTIMES UD;cURU TIMES DARA3;eLAK-668
eLU3;cZA7;cZU OVER ZU PLUS SAR;cZU5 TIMES THREE DISH TENU;@12F90;aCYPRO-MINOAN SIGN CM001;cCM002
cCM004;cCM005;cCM006;cCM007;cCM008;cCM009;cCM010;cCM011;cCM012;cCM012B;cCM013;cCM015;cCM017;cCM019
cCM021;cCM023;cCM024;cCM025;cCM026;cCM027;cCM028;cCM029;cCM030;cCM033;cCM034;cCM035;cCM036;cCM037
cCM038;cCM039;cCM040;cCM041;cCM044;cCM046;cCM047;cCM049;cCM050;cCM051;cCM052;cCM053;cCM054;cCM055
cCM056;cCM058;cCM059;cCM060;cCM061;cCM062;cCM063;cCM064;cCM066;cCM067;cCM068;cCM069;cCM070;cCM071
cCM072;cCM073;cCM074;cCM075;cCM075B;cCM076;cCM078;cCM079;cCM080;cCM081;cCM082;cCM083;cCM084;cCM085
cCM086;cCM087;cCM088;cCM089;cCM090;cCM091;cCM092;cCM094;cCM095;cCM096;cCM097;cCM098;cCM099;cCM100
cCM101;cCM102;cCM103;cCM104;cCM105;cCM107;cCM108;cCM109;cCM110;cCM112;cCM114;cCM301;cCM302;@13000
aEGYPTIAN HIEROGLYPH A001;cA002;cA003;cA004;cA005;cA005A;cA006;cA006A;cA006B;cA007;cA008;cA009
cA010;cA011;cA012;cA013;cA014;cA014A;cA015;cA016;cA017;cA017A;cA018;cA019;cA020;cA021;cA022;cA023
cA024;cA025;cA026;cA027;cA028;cA029;cA030;cA031;cA032;cA032A;cA033;cA034;cA035;cA036;cA037;cA038
cA039;cA040;cA040A;cA041;cA042;cA042A;cA043;cA043A;cA044;cA045;cA045A;cA046;cA047;cA048;cA049
cA050;cA051;cA052;cA053;cA054;cA055;cA056;cA057;cA058;cA059;cA060;cA061;cA062;cA063;cA064;cA065
cA066;cA067;cA068;cA069;cA070;cB001;cB002;cB003;cB004;cB005;cB005A;cB006;cB007;cB008;cB009;cC001
cC002;cC002A;cC002B;cC002C;cC003;cC004;cC005;cC006;cC007;cC008;cC009;cC010;cC010A;cC011;cC012
cC013;cC014;cC015;cC016;cC017;cC018;cC019;cC020;cC021;cC022;cC023;cC024;cD001;cD002;cD003;cD004
cD005;cD006;cD007;cD008;cD008A;cD009;cD010;cD011;cD012;cD013;cD014;cD015;cD016;cD017;cD018;cD019
cD020;cD021;cD022;cD023;cD024;cD025;cD026;cD027;cD027A;cD028;cD029;cD030;cD031;cD031A;cD032;cD033
cD034;cD034A;cD035;cD036;cD037;cD038;cD039;cD040;cD041;cD042;cD043;cD044;cD045;cD046;cD046A;cD047
cD048;cD048A;cD049;cD050;cD050A;cD050B;cD050C;cD050D;cD050E;cD050F;cD050G;cD050H;cD050I;cD051
cD052;cD052A;cD053;cD054;cD054A;cD055;cD056;cD057;cD058;cD059;cD060;cD061;cD062;cD063;cD064;cD065
cD066;cD067;cD067A;cD067B;cD067C;cD067D;cD067E;cD067F;cD067G;cD067H;cE001;cE002;cE003;cE004;cE005
cE006;cE007;cE008;cE008A;cE009;cE009A;cE010;cE011;cE012;cE013;cE014;cE015;cE016;cE016A;cE017
cE017A;cE018;cE019;cE020;cE020A;cE021;cE022;cE023;cE024;cE025;cE026;cE027;cE028;cE028A;cE029;cE030
cE031;cE032;cE033;cE034;cE034A;cE036;cE037;cE038;cF001;cF001A;cF002;cF003;cF004;cF005;cF006;cF007
cF008;cF009;cF010;cF011;cF012;cF013;cF013A;cF014;cF015;cF016;cF017;cF018;cF019;cF020;cF021;cF021A
cF022;cF023;cF024;cF025;cF026;cF027;cF028;cF029;cF030;cF031;cF031A;cF032;cF033;cF034;cF035;cF036
cF037;cF037A;cF038;cF038A;cF039;cF040;cF041;cF042;cF043;cF044;cF045;cF045A;cF046;cF046A;cF047
cF047A;cF048;cF049;cF050;cF051;cF051A;cF051B;cF051C;cF052;cF053;cG001;cG002;cG003;cG004;cG005
cG006;cG006A;cG007;cG007A;cG007B;cG008;cG009;cG010;cG011;cG011A;cG012;cG013;cG014;cG015;cG016
cG017;cG018;cG019;cG020;cG020A;cG021;cG022;cG023;cG024;cG025;cG026;cG026A;cG027;cG028;cG029;cG030
cG031;cG032;cG033;cG034;cG035;cG036;cG036A;cG037;cG037A;cG038;cG039;cG040;cG041;cG042;cG043;cG043A
cG044;cG045;cG045A;cG046;cG047;cG048;cG049;cG050;cG051;cG052;cG053;cG054;cH001;cH002;cH003;cH004
cH005;cH006;cH006A;cH007;cH008;cI001;cI002;cI003;cI004;cI005;cI005A;cI006;cI007;cI008;cI009;cI009A
cI010;cI010A;cI011;cI011A;cI012;cI013;cI014;cI015;cK001;cK002;cK003;cK004;cK005;cK006;cK007;cK008
cL001;cL002;cL002A;cL003;cL004;cL005;cL006;cL006A;cL007;cL008;cM001;cM001A;cM001B;cM002;cM003
cM003A;cM004;cM005;cM006;cM007;cM008;cM009;cM010;cM010A;cM011;cM012;cM012A;cM012B;cM012C;cM012D
cM012E;cM012F;cM012G;cM012H;cM013;cM014;cM015;cM015A;cM016;cM016A;cM017;cM017A;cM018;cM019;cM020
cM021;cM022;cM022A;cM023;cM024;cM024A;cM025;cM026;cM027;cM028;cM028A;cM029;cM030;cM031;cM031A
cM032;cM033;cM033A;cM033B;cM034;cM035;cM036;cM037;cM038;cM039;cM040;cM040A;cM041;cM042;cM043;cM044
cN001;cN002;cN003;cN004;cN005;cN006;cN007;cN008;cN009;cN010;cN011;cN012;cN013;cN014;cN015;cN016
cN017;cN018;cN018A;cN018B;cN019;cN020;cN021;cN022;cN023;cN024;cN025;cN025A;cN026;cN027;cN028;cN029
cN030;cN031;cN032;cN033;cN033A;cN034;cN034A;cN035;cN035A;cN036;cN037;cN037A;cN038;cN039;cN040
cN041;cN042;cNL001;cNL002;cNL003;cNL004;cNL005;cNL005A;cNL006;cNL007;cNL008;cNL009;cNL010;cNL011
cNL012;cNL013;cNL014;cNL015;cNL016;cNL017;cNL017A;cNL018;cNL019;cNL020;cNU001;cNU002;cNU003;cNU004
cNU005;cNU006;cNU007;cNU008;cNU009;cNU010;cNU010A;cNU011;cNU011A;cNU012;cNU013;cNU014;cNU015
cNU016;cNU017;cNU018;cNU018A;cNU019;cNU020;cNU021;cNU022;cNU022A;cO001;cO001A;cO002;cO003;cO004
cO005;cO005A;cO006;cO006A;cO006B;cO006C;cO006D;cO006E;cO006F;cO007;cO008;cO009;cO010;cO010A;cO010B
cO010C;cO011;cO012;cO013;cO014;cO015;cO016;cO017;cO018;cO019;cO019A;cO020;cO020A;cO021;cO022;cO023
cO024;cO024A;cO025;cO025A;cO026;cO027;cO028;cO029;cO029A;cO030;cO030A;cO031;cO032;cO033;cO033A
cO034;cO035;cO036;cO036A;cO036B;cO036C;cO036D;cO037;cO038;cO039;cO040;cO041;cO042;cO043;cO044
cO045;cO046;cO047;cO048;cO049;cO050;cO050A;cO050B;cO051;cP001;cP001A;cP002;cP003;cP003A;cP004
cP005;cP006;cP007;cP008;cP009;cP010;cP011;cQ001;cQ002;cQ003;cQ004;cQ005;cQ006;cQ007;cR001;cR002
cR002A;cR003;cR003A;cR003B;cR004;cR005;cR006;cR007;cR008;cR009;cR010;cR010A;cR011;cR012;cR013
cR014;cR015;cR016;cR016A;cR017;cR018;cR019;cR020;cR021;cR022;cR023;cR024;cR025;cR026;cR027;cR028
cR029;cS001;cS002;cS002A;cS003;cS004;cS005;cS006;cS006A;cS007;cS008;cS009;cS010;cS011;cS012;cS013
cS014;cS014A;cS014B;cS015;cS016;cS017;cS017A;cS018;cS019;cS020;cS021;cS022;cS023;cS024;cS025;cS026
cS026A;cS026B;cS027;cS028;cS029;cS030;cS031;cS032;cS033;cS034;cS035;cS035A;cS036;cS037;cS038;cS039
cS040;cS041;cS042;cS043;cS044;cS045;cS046;cT001;cT002;cT003;cT003A;cT004;cT005;cT006;cT007;cT007A
cT008;cT008A;cT009;cT009A;cT010;cT011;cT011A;cT012;cT013;cT014;cT015;cT016;cT016A;cT017;cT018
cT019;cT020;cT021;cT022;cT023;cT024;cT025;cT026;cT027;cT028;cT029;cT030;cT031;cT032;cT032A;cT033
cT033A;cT034;cT035;cT036;cU001;cU002;cU003;cU004;cU005;cU006;cU006A;cU006B;cU007;cU008;cU009;cU010
cU011;cU012;cU013;cU014;cU015;cU016;cU017;cU018;cU019;cU020;cU021;cU022;cU023;cU023A;cU024;cU025
cU026;cU027;cU028;cU029;cU029A;cU030;cU031;cU032;cU032A;cU033;cU034;cU035;cU036;cU037;cU038;cU039
cU040;cU041;cU042;cV001;cV001A;cV001B;cV001C;cV001D;cV001E;cV001F;cV001G;cV001H;cV001I;cV002
cV002A;cV003;cV004;cV005;cV006;cV007;cV007A;cV007B;cV008;cV009;cV010;cV011;cV011A;cV011B;cV011C
cV012;cV012A;cV012B;cV013;cV014;cV015;cV016;cV017;cV018;cV019;cV020;cV020A;cV020B;cV020C;cV020D
cV020E;cV020F;cV020G;cV020H;cV020I;cV020J;cV020K;cV020L;cV021;cV022;cV023;cV023A;cV024;cV025;cV026
cV027;cV028;cV028A;cV029;cV029A;cV030;cV030A;cV031;cV031A;cV032;cV033;cV033A;cV034;cV035;cV036
cV037;cV037A;cV038;cV039;cV040;cV040A;cW001;cW002;cW003;cW003A;cW004;cW005;cW006;cW007;cW008;cW009
cW009A;cW010;cW010A;cW011;cW012;cW013;cW014;cW014A;cW015;cW016;cW017;cW017A;cW018;cW018A;cW019
cW020;cW021;cW022;cW023;cW024;cW024A;cW025;cX001;cX002;cX003;cX004;cX004A;cX004B;cX005;cX006
cX006A;cX007;cX008;cX008A;cY001;cY001A;cY002;cY003;cY004;cY005;cY006;cY007;cY008;cZ001;cZ002
cZ002A;cZ002B;cZ002C;cZ002D;cZ003;cZ003A;cZ003B;cZ004;cZ004A;cZ005;cZ005A;cZ006;cZ007;cZ008;cZ009
cZ010;cZ011;cZ012;cZ013;cZ014;cZ015;cZ015A;cZ015B;cZ015C;cZ015D;cZ015E;cZ015F;cZ015G;cZ015H;cZ015I
cZ016;cZ016A;cZ016B;cZ016C;cZ016D;cZ016E;cZ016F;cZ016G;cZ016H;cAA001;cAA002;cAA003;cAA004;cAA005
cAA006;cAA007;cAA007A;cAA007B;cAA008;cAA009;cAA010;cAA011;cAA012;cAA013;cAA014;cAA015;cAA016
cAA017;cAA018;cAA019;cAA020;cAA021;cAA022;cAA023;cAA024;cAA025;cAA026;cAA027;cAA028;cAA029;cAA030
cAA031;cAA032;@13430;cVERTICAL JOINER;cHORIZONTAL JOINER;cINSERT AT TOP START;eBOTTOM START
eTOP END;eBOTTOM END;cOVERLAY MIDDLE;cBEGIN SEGMENT;cEND SEGMENT;@14400;aANATOLIAN HIEROGLYPH A001
cA002;cA003;cA004;cA005;cA006;cA007;cA008;cA009;cA010;cA010A;cA011;cA012;cA013;cA014;cA015;cA016
cA017;cA018;cA019;cA020;cA021;cA022;cA023;cA024;cA025;cA026;cA026A;cA027;cA028;cA029;cA030;cA031
cA032;cA033;cA034;cA035;cA036;cA037;cA038;cA039;cA039A;cA040;cA041;cA041A;cA042;cA043;cA044;cA045
cA045A;cA046;cA046A;cA046B;cA047;cA048;cA049;cA050;cA051;cA052;cA053;cA054;cA055;cA056;cA057;cA058
cA059;cA060;cA061;cA062;cA063;cA064;cA065;cA066;cA066A;cA066B;cA066C;cA067;cA068;cA069;cA070;cA071
cA072;cA073;cA074;cA075;cA076;cA077;cA078;cA079;cA080;cA081;cA082;cA083;cA084;cA085;cA086;cA087
cA088;cA089;cA090;cA091;cA092;cA093;cA094;cA095;cA096;cA097;cA097A;cA098;cA098A;cA099;cA100;cA100A
cA101;cA101A;cA102;cA102A;cA103;cA104;cA104A;cA104B;cA104C;cA105;cA105A;cA105B;cA106;cA107;cA107A
cA107B;cA107C;cA108;cA109;cA110;cA110A;cA110B;cA111;cA112;cA113;cA114;cA115;cA115A;cA116;cA117
cA118;cA119;cA120;cA121;cA122;cA123;cA124;cA125;cA125A;cA126;cA127;cA128;cA129;cA130;cA131;cA132
cA133;cA134;cA135;cA135A;cA136;cA137;cA138;cA139;cA140;cA141;cA142;cA143;cA144;cA145;cA146;cA147
cA148;cA149;cA150;cA151;cA152;cA153;cA154;cA155;cA156;cA157;cA158;cA159;cA160;cA161;cA162;cA163
cA164;cA165;cA166;cA167;cA168;cA169;cA170;cA171;cA172;cA173;cA174;cA175;cA176;cA177;cA178;cA179
cA180;cA181;cA182;cA183;cA184;cA185;cA186;cA187;cA188;cA189;cA190;cA191;cA192;cA193;cA194;cA195
cA196;cA197;cA198;cA199;cA200;cA201;cA202;cA202A;cA202B;cA203;cA204;cA205;cA206;cA207;cA207A;cA208
cA209;cA209A;cA210;cA211;cA212;cA213;cA214;cA215;cA215A;cA216;cA216A;cA217;cA218;cA219;cA220;cA221
cA222;cA223;cA224;cA225;cA226;cA227;cA227A;cA228;cA229;cA230;cA231;cA232;cA233;cA234;cA235;cA236
cA237;cA238;cA239;cA240;cA241;cA242;cA243;cA244;cA245;cA246;cA247;cA248;cA249;cA250;cA251;cA252
cA253;cA254;cA255;cA256;cA257;cA258;cA259;cA260;cA261;cA262;cA263;cA264;cA265;cA266;cA267;cA267A
cA268;cA269;cA270;cA271;cA272;cA273;cA274;cA275;cA276;cA277;cA278;cA279;cA280;cA281;cA282;cA283
cA284;cA285;cA286;cA287;cA288;cA289;cA289A;cA290;cA291;cA292;cA293;cA294;cA294A;cA295;cA296;cA297
cA298;cA299;cA299A;cA300;cA301;cA302;cA303;cA304;cA305;cA306;cA307;cA308;cA309;cA309A;cA310;cA311
cA312;cA313;cA314;cA315;cA316;cA317;cA318;cA319;cA320;cA321;cA322;cA323;cA324;cA325;cA326;cA327
cA328;cA329;cA329A;cA330;cA331;cA332A;cA332B;cA332C;cA333;cA334;cA335;cA336;cA336A;cA336B;cA336C
cA337;cA338;cA339;cA340;cA341;cA342;cA343;cA344;cA345;cA346;cA347;cA348;cA349;cA350;cA351;cA352
cA353;cA354;cA355;cA356;cA357;cA358;cA359;cA359A;cA360;cA361;cA362;cA363;cA364;cA364A;cA365;cA366
cA367;cA368;cA368A;cA369;cA370;cA371;cA371A;cA372;cA373;cA374;cA375;cA376;cA377;cA378;cA379;cA380
cA381;cA381A;cA382;cA383 RA OR RI;cA383A;cA384;cA385;cA386;cA386A;cA387;cA388;cA389;cA390;cA391
cA392;cA393 EIGHT;cA394;cA395;cA396;cA397;cA398;cA399;cA400;cA401;cA402;cA403;cA404;cA405;cA406
cA407;cA408;cA409;cA410 BEGIN LOGOGRAM MARK;cA410A END LOGOGRAM MARK;cA411;cA412;cA413;cA414;cA415
cA416;cA417;cA418;cA419;cA420;cA421;cA422;cA423;cA424;cA425;cA426;cA427;cA428;cA429;cA430;cA431
cA432;cA433;cA434;cA435;cA436;cA437;cA438;cA439;cA440;cA441;cA442;cA443;cA444;cA445;cA446;cA447
cA448;cA449;cA450;cA450A;cA451;cA452;cA453;cA454;cA455;cA456;cA457;cA457A;cA458;cA459;cA460;cA461
cA462;cA463;cA464;cA465;cA466;cA467;cA468;cA469;cA470;cA471;cA472;cA473;cA474;cA475;cA476;cA477
cA478;cA479;cA480;cA481;cA482;cA483;cA484;cA485;cA486;cA487;cA488;cA489;cA490;cA491;cA492;cA493
cA494;cA495;cA496;cA497;cA501;cA502;cA503;cA504;cA505;cA506;cA507;cA508;cA509;cA510;cA511;cA512
cA513;cA514;cA515;cA516;cA517;cA518;cA519;cA520;cA521;cA522;cA523;cA524;cA525;cA526;cA527;cA528
cA529;cA530;@16800;aBAMUM LETTER PHASE-A NGKUE MFON;dGBIEE FON;dPON MFON PIPAEMGBIEE;fPIPAEMBA
dNAA MFON;dSHUENSHUET;dTITA MFON;dNZA MFON;dSHINDA PA NJI;dPON PA NJI PIPAEMGBIEE;gPIPAEMBA
dMAEMBGBIEE;dTU MAEMBA;dNGANGU;dMAEMVEUX;dMANSUAE;dMVEUAENGAM;dSEUNYAM;dNTOQPEN;dKEUKEUTNDA
dNKINDI;dSUU;dNGKUENZEUM;dLAPAQ;dLET KUT;dNTAP MFAA;dMAEKEUP;dPASHAE;dGHEUAERAE;dPAMSHAE
dMON NGGEUAET;dNZUN MEUT;dU YUQ NAE;dGHEUAEGHEUAE;dNTAP NTAA;dSISA;dMGBASA;dMEUNJOMNDEUQ;dMOOMPUQ
dKAFA;dPA LEERAEWA;dNDA LEERAEWA;dPET;dMAEMKPEN;dNIKA;dPUP;dTUAEP;dLUAEP;dSONJAM;dTEUTEUWEN
dMAENYI;dKET;dNDAANGGEUAET;dKUOQ;dMOOMEUT;dSHUM;dLOMMAE;dFIRI;dROM;dKPOQ;dSOQ;dMAP PIEET;dSHIRAE
dNTAP;dSHOQ NSHUT YUM;dNYIT MONGKEUAEQ;dPAARAE;dNKAARAE;dUNKNOWN;dNGGEN;dMAESI;dNJAM;dMBANYI;dNYET
dTEUAEN;dSOT;dPAAM;dNSHIEE;dMAEM;dNYI;dKAQ;dNSHA;dVEE;dLU;dNEN;dNAQ;dMBAQ;cPHASE-B NSHUET
dTU MAEMGBIEE;dSIEE;dSET TU;dLOM NTEUM;dMBA MAELEE;dKIEEM;dYEURAE;dMBAARAE;dKAM;dPEESHI
dYAFU LEERAEWA;dLAM NSHUT NYAM;dNTIEE SHEUOQ;dNDU NJAA;dGHEUGHEUAEM;dPIT;dTU NSIEE;dSHET NJAQ
dSHEUAEQTU;dMFON TEUAEQ;dMBIT MBAAKET;dNYI NTEUM;dKEUPUQ;dGHEUGHEN;dKEUYEUX;dLAANAE;dPARUM;dVEUM
dNGKINDI MVOP;dNGGEU MBU;dWUAET;dSAKEUAE;dTAAM;dMEUQ;dNGGUOQ;eLARGE;dMFIYAQ;dSUE;dMBEURI;dMONTIEEN
dNYAEMAE;dPUNGAAM;dMEUT NGGEET;dFEUX;dMBUOQ;dFEE;dKEUAEM;dMA NJEUAENA;eNJUQA;dLET;dNGGAAM;dNSEN
dMA;dKIQ;dNGOM;cPHASE-C NGKUE MAEMBA;dNZA;dYUM;dWANGKUOQ;dNGGEN;dNDEUAEREE;dNGKAQ;dGHARAE
dMBEEKEET;dGBAYI;dNYIR MKPARAQ MEUN;dNTU MBIT;dMBEUM;dPIRIEEN;dNDOMBU;dMBAA CABBAGE-TREE
dKEUSHEUAEP;dGHAP;dKEUKAQ;dYU MUOMAE;dNZEUM;dMBUE;dNSEUAEN;dMBIT;dYEUQ;dKPARAQ;dKAA;dSEUX;dNDIDA
dTAASHAE;dNJUEQ;dTITA YUE;dSUAET;dNGGUAEN NYAM;dVEUX;dNANSANAQ;dMA KEUAERI;dNTAA;dNGGUON;dLAP
dMBIRIEEN;dMGBASAQ;dNTEUNGBA;dTEUTEUX;dNGGUM;dFUE;dNDEUT;dNSA;dNSHAQ;dBUNG;dVEUAEPEN;dMBERAE;dRU
dNJAEM;dLAM;dTITUAEP;dNSUOT NGOM;dNJEEEE;dKET;dNGGU;dMAESI;dMBUAEM;dLU;dKUT;dNJAM;dNGOM;dWUP
dNGGUEET;dNSOM;dNTEN;dKUOP NKAARAE;dNSUN;dNDAM;dMA NSIEE;dYAA;dNDAP;dSHUEQ;dSETFON;dMBI;dMAEMBA
dMBANYI;dKEUSEUX;dMBEUX;dKEUM;dMBAA PICKET;dYUWOQ;dNJEUX;dMIEE;dMUAE;dSHIQ;dKEN LAW;eFATIGUE;dNGAQ
dNAQ;dLIQ;dPIN;dPEN;dTET;cPHASE-D MBUO;dWAP;dNJI;dMFON;dNJIEE;dLIEE;dNJEUT;dNSHEE;dNGGAAMAE;dNYAM
dWUAEN;dNGKUN;dSHEE;dNGKAP;dKEUAETMEUN;dTEUT;dSHEUAE;dNJAP;dSUE;dKET;dYAEMMAE;dKUOM;dSAP;dMFEUT
dNDEUX;dMALEERI;dMEUT;dSEUAEQ;dYEN;dNJEUAEM;dKEUOT MBUAE;dNGKEURI;dTU;dGHAA;dNGKYEE;dFEUFEUAET
dNDEE;dMGBOFUM;dLEUAEP;dNDON;dMONI;dMGBEUN;dPUUT;dMGBIEE;dMFO;dLUM;dNSIEEP;dMBAA;dKWAET;dNYET
dTEUAEN;dSOT;dYUWOQ;dKEUM;dRAEM;dTEEEE;dNGKEUAEQ;dMFEUAE;dNSIEET;dKEUP;dPIP;dPEUTAE;dNYUE;dLET
dNGGAAM;dMFIEE;dNGGWAEN;dYUOM;dPAP;dYUOP;dNDAM;dNTEUM;dSUAE;dKUN;dNGGEUX;dNGKIEE;dTUOT;dMEUN;dKUQ
dNSUM;dTEUN;dMAENJET;dNGGAP;dLEUM;dNGGUOM;dNSHUT;dNJUEQ;dGHEUAE;dKU;dREN OLD;dTAE;dTOQ;dNYI;dRII
dLEEEE;dMEEEE;dM;dSUU;dMU;dSHII;dSHEUX;dKYEE;dNU;dSHU;dNTEE;dPEE;dNI;dSHOQ;dPUQ;dMVOP;dLOQ
dREN MUCH;dTI;dNTUU;dMBAA SEVEN;dSAQ;dFAA;cPHASE-E NDAP;dTOON;dMBEUM;dLAP;dVOM;dLOON;dPAA;dSOM
dRAQ;dNSHUOP;dNDUN;dPUAE;dTAM;dNGKA;dKPEUX;dWUO;dSEE;dNGGEUAET;dPAAM;dTOO;dKUOP;dLOM;dNSHIEE;dNGOP
dMAEM;dNGKEUX;dNGOQ;dNSHUE;dRIMGBA;dNJEUX;dPEEM;dSAA;dNGGURAE;dMGBA;dGHEUX;dNGKEUAEM;dNJAEMLI;dMAP
dLOOT;dNGGEEEE;dNDIQ;dTAEN NTEUM;dSET;dPUM;dNDAA SOFTNESS;dNGGUAESHAE NYAM;dYIEE;dGHEUN;dTUAE
dYEUAE;dPO;dTUMAE;dKEUAE;dSUAEN;dTEUAEQ;dVEUAE;dWEUX;dLAAM;dPU;dTAAQ;dGHAAMAE;dNGEUREUT;dSHEUAEQ
dMGBEN;dMBEE;dNZAQ;dNKOM;dGBET;dTUM;dKUET;dYAP;dNYI CLEAVER;dYIT;dMFEUQ;dNDIAQ;dPIEEQ;dYUEQ
dLEUAEM;dFUE;dGBEUX;dNGKUP;dKET;dMAE;dNGKAAMI;dGHET;dFA;dNTUM;dPEUT;dYEUM;dNGGEUAE;dNYI BETWEEN
dNZUQ;dPOON;dMIEE;dFUET;dNAE;dMUAE;dGHEUAE;dFU I;dMVI;dPUAQ;dNGKUM;dKUT;dPIET;dNTAP;dYEUAET;dNGGUP
dPA PEOPLE;dFU CALL;dFOM;dNJEE;dA;dTOQ;dO;dI;dLAQ;dPA PLURAL;dTAA;dTAQ;dNDAA MY HOUSE;dSHIQ;dYEUX
dNGUAE;dYUAEN;dYOQ SWIMMING;eCOVER;dYUQ;dYUN;dKEUX;dPEUX;dNJEE EPOCH;dPUE;dWUE;dFEE;dVEE;dLU;dMI
dREUX;dRAE;dNGUAET;dNGA;dSHO;dSHOQ;dFU REMEDY;dNA;dPI;dLOQ;dKO;dMEN;dMA;dMAQ;dTEU;dKI;dMON;dTEN
dFAQ;dGHOM;cPHASE-F KA;dU;dKU;dEE;dREE;dTAE;dNYI;dLA;dRII;dRIEE;dMEEEE;dTAA;dNDAA;dNJAEM;dM;dSUU
dSHII;dSI;dSEUX;dKYEE;dKET;dNUAE;dNU;dNJUAE;dYOQ;dSHU;dYA;dNSHA;dPEUX;dNTEE;dWUE;dPEE;dRU;dNI
dREUX;dKEN;dNGKWAEN;dNGGA;dSHO;dPUAE;dFOM;dWA;dLI;dLOQ;dKO;dMBEN;dREN;dMA;dMO;dMBAA;dTET;dKPA
dSAMBA;dVUEQ;@16A40;aMRO LETTER TA;cNGI;cYO;cMIM;cBA;cDA;cA;cPHI;cKHAI;cHAO;cDAI;cCHU;cKEAAE;cOL
cMAEM;cNIN;cPA;cOO;cO;cRO;cSHI;cTHEA;cEA;cWA;cE;cKO;cLAN;cLA;cHAI;cRI;cTEK;@16A60;bDIGIT ZERO;cONE
cTWO;cTHREE;cFOUR;cFIVE;cSIX;cSEVEN;cEIGHT;cNINE;@16A6E;bDANDA;bDOUBLE DANDA;aTANGSA LETTER OZ;cOC
cOQ;cOX;cAZ;cAC;cAQ;cAX;cVZ;cVC;cVQ;cVX;cEZ;cEC;cEQ;cEX;cIZ;cIC;cIQ;cIX;cUZ;cUC;cUQ;cUX;cAWZ;cAWC
cAWQ;cAWX;cUIZ;cUIC;cUIQ;cUIX;cFINAL NG;cLONG UEX;cSHORT UEZ;dAWX;cUEC;cUEZ;cUEQ;cUEX;cUIUZ;cUIUC
cUIUQ;cUIUX;cMZ;cMC;cMQ;cMX;cKA;cKHA;cGA;cNGA;cSA;cYA;cWA;cPA;cNYA;cPHA;cBA;cMA;cNA;cHA;cLA;cHTA
cTA;cDA;cRA;cNHA;cSHA;cCA;cTSA;cGHA;cHTTA;cTHA;cXA;cFA;cDHA;cCHA;cZA;@16AC0;bDIGIT ZERO;cONE;cTWO
cTHREE;cFOUR;cFIVE;cSIX;cSEVEN;cEIGHT;cNINE;@16AD0;aBASSA VAH LETTER ENNI;dKA;dSE;dFA;dMBE;dYIE
dGAH;dDHII;dKPAH;dJO;dHWAH;dWA;dZO;dGBU;dDO;dCE;dUWU;dTO;dBA;dVU;dYEIN;dPA;dWADDA;dA;dO;dOO;dU;dEE
dE;dI;@16AF0;cCOMBINING HIGH TONE;dLOW TONE;dMID TONE;dLOW-MID TONE;dHIGH-LOW TONE;cFULL STOP
@16B00;aPAHAWH HMONG VOWEL KEEB;dKEEV;dKIB;dKIV;dKAUB;dKAUV;dKUB;dKUV;dKEB;dKEV;dKAIB;dKAIV;dKOOB
dKOOV;dKAWB;dKAWV;dKUAB;dKUAV;dKOB;dKOV;dKIAB;dKIAV;dKAB;dKAV;dKWB;dKWV;dKAAB;dKAAV;cCONSONANT VAU
dNTSAU;dLAU;dHAU;dNLAU;dRAU;dNKAU;dQHAU;dYAU;dHLAU;dMAU;dCHAU;dNCHAU;dHNAU;dPLHAU;dNTHAU;dNAU;dAU
dXAU;dCAU;cMARK CIM TUB;eSO;eKES;eKHAV;eSUAM;eHOM;eTAUM;cSIGN VOS THOM;eTSHAB CEEB;dCIM CHEEM
dVOS THIAB;eFEEM;dXYEEM NTXIV;eRHO;eTOV;eFAIB;dVOS SEEV;dMEEJ SUAB;dVOS NRUA;dIB YAM;dXAUS
dCIM TSOV ROG;@16B50;cDIGIT ZERO;dONE;dTWO;dTHREE;dFOUR;dFIVE;dSIX;dSEVEN;dEIGHT;dNINE;@16B5B
cNUMBER TENS;dHUNDREDS;dTEN THOUSANDS;dMILLIONS;dHUNDRED MILLIONS;dTEN BILLIONS;dTRILLIONS;@16B63
cSIGN VOS LUB;dXYOO;dHLI;dTHIRD-STAGE HLI;dZWJ THAJ;dHNUB;dNQIG;dXIAB;dNTUJ;dAV;dTXHEEJ CEEV
dMEEJ TSEEB;dTAU;dLOS;dMUS;dCIM HAIS LUS NTOG NTOG;eCUAM TSHOOJ;eTXWV;fCHWV;ePUB DAWB;eNRES TOS
@16B7D;cCLAN SIGN TSHEEJ;eYEEG;eLIS;eLAUJ;eXYOOJ;eKOO;eHAWJ;eMUAS;eTHOJ;eTSAB;ePHAB;eKHAB;eHAM
eVAJ;eFAJ;eYAJ;eTSWB;eKWM;eVWJ;@16E40;aMEDEFAIDRIN CAPITAL LETTER M;dS;dV;dW;dATIU;dZ;dKP;dP;dT;dG
dF;dI;dK;dA;dJ;dE;dB;dC;dU;dYU;dL;dQ;dHP;dNY;dX;dD;dOE;dN;dR;dO;dAI;dY;bSMALL LETTER M;dS;dV;dW
dATIU;dZ;dKP;dP;dT;dG;dF;dI;dK;dA;dJ;dE;dB;dC;dU;dYU;dL;dQ;dHP;dNY;dX;dD;dOE;dN;dR;dO;dAI;dY
bDIGIT ZERO;cONE;cTWO;cTHREE;cFOUR;cFIVE;cSIX;cSEVEN;cEIGHT;cNINE;bNUMBER TEN;cELEVEN;cTWELVE
cTHIRTEEN;cFOURTEEN;cFIFTEEN;cSIXTEEN;cSEVENTEEN;cEIGHTEEN;cNINETEEN;bDIGIT ONE ALTERNATE FORM
cTWO ALTERNATE FORM;cTHREE ALTERNATE FORM;bCOMMA;bFULL STOP;bSYMBOL AIVA;bEXCLAMATION OH;@16F00
aMIAO LETTER PA;cBA;cYI PA;cPLA;cMA;cMHA;cARCHAIC MA;cFA;cVA;cVFA;cTA;cDA;cYI TTA;dTA;cTTA;cDDA
cNA;cNHA;cYI NNA;cARCHAIC NA;cNNA;cNNHA;cLA;cLYA;cLHA;cLHYA;cTLHA;cDLHA;cTLHYA;cDLHYA;cKA;cGA
cYI KA;cQA;cQGA;cNGA;cNGHA;cARCHAIC NGA;cHA;cXA;cGHA;cGHHA;cTSSA;cDZZA;cNYA;cNYHA;cTSHA;cDZHA
cYI TSHA;dDZHA;cREFORMED TSHA;cSHA;cSSA;cZHA;cZSHA;cTSA;cDZA;cYI TSA;cSA;cZA;cZSA;cZZA;cZZSA
cARCHAIC ZZA;cZZYA;cZZSYA;cWA;cAH;cHHA;cBRI;cSYI;cDZYI;cTE;cTSE;cRTE;@16F4F
bSIGN CONSONANT MODIFIER BAR;bLETTER NASALIZATION;bSIGN ASPIRATION;cREFORMED VOICING;dASPIRATION
bVOWEL SIGN A;dAA;dAHH;dAN;dANG;dO;dOO;dWO;dW;dE;dEN;dENG;dOEY;dI;dIA;dIAN;dIANG;dIO;dIE;dII;dIU
dING;dU;dUA;dUAN;dUANG;dUU;dUEI;dUNG;dY;dYI;dAE;dAEE;dERR;dROUNDED ERR;dER;dROUNDED ER;dAI;dEI;dAU
dOU;dN;dNG;dUOG;dYUI;dOG;dOER;dVW;dIG;dEA;dIONG;dUI;@16F8F;bTONE RIGHT;cTOP RIGHT;cABOVE;cBELOW
bLETTER TONE-2;cTONE-3;cTONE-4;cTONE-5;cTONE-6;cTONE-7;cTONE-8;cREFORMED TONE-1;dTONE-2;dTONE-4
dTONE-5;dTONE-6;dTONE-8;@16FE0;aTANGUT ITERATION MARK;aNUSHU ITERATION MARK;aOLD CHINESE HOOK MARK
cITERATION MARK;aKHITAN SMALL SCRIPT FILLER;@16FF0;aVIETNAMESE ALTERNATE READING MARK CA;eNHAY
@18800;aTANGUT COMPONENT-001;bCOMPONENT-002;bCOMPONENT-003;bCOMPONENT-004;bCOMPONENT-005
bCOMPONENT-006;bCOMPONENT-007;bCOMPONENT-008;bCOMPONENT-009;bCOMPONENT-010;bCOMPONENT-011
bCOMPONENT-012;bCOMPONENT-013;bCOMPONENT-014;bCOMPONENT-015;bCOMPONENT-016;bCOMPONENT-017
bCOMPONENT-018;bCOMPONENT-019;bCOMPONENT-020;bCOMPONENT-021;bCOMPONENT-022;bCOMPONENT-023
bCOMPONENT-024;bCOMPONENT-025;bCOMPONENT-026;bCOMPONENT-027;bCOMPONENT-028;bCOMPONENT-029
bCOMPONENT-030;bCOMPONENT-031;bCOMPONENT-032;bCOMPONENT-033;bCOMPONENT-034;bCOMPONENT-035
bCOMPONENT-036;bCOMPONENT-037;bCOMPONENT-038;bCOMPONENT-039;bCOMPONENT-040;bCOMPONENT-041
bCOMPONENT-042;bCOMPONENT-043;bCOMPONENT-044;bCOMPONENT-045;bCOMPONENT-046;bCOMPONENT-047
bCOMPONENT-048;bCOMPONENT-049;bCOMPONENT-050;bCOMPONENT-051;bCOMPONENT-052;bCOMPONENT-053
bCOMPONENT-054;bCOMPONENT-055;bCOMPONENT-056;bCOMPONENT-057;bCOMPONENT-058;bCOMPONENT-059
bCOMPONENT-060;bCOMPONENT-061;bCOMPONENT-062;bCOMPONENT-063;bCOMPONENT-064;bCOMPONENT-065
bCOMPONENT-066;bCOMPONENT-067;bCOMPONENT-068;bCOMPONENT-069;bCOMPONENT-070;bCOMPONENT-071
bCOMPONENT-072;bCOMPONENT-073;bCOMPONENT-074;bCOMPONENT-075;bCOMPONENT-076;bCOMPONENT-077
bCOMPONENT-078;bCOMPONENT-079;bCOMPONENT-080;bCOMPONENT-081;bCOMPONENT-082;bCOMPONENT-083
bCOMPONENT-084;bCOMPONENT-085;bCOMPONENT-086;bCOMPONENT-087;bCOMPONENT-088;bCOMPONENT-089
bCOMPONENT-090;bCOMPONENT-091;bCOMPONENT-092;bCOMPONENT-093;bCOMPONENT-094;bCOMPONENT-095
bCOMPONENT-096;bCOMPONENT-097;bCOMPONENT-098;bCOMPONENT-099;bCOMPONENT-100;bCOMPONENT-101
bCOMPONENT-102;bCOMPONENT-103;bCOMPONENT-104;bCOMPONENT-105;bCOMPONENT-106;bCOMPONENT-107
bCOMPONENT-108;bCOMPONENT-109;bCOMPONENT-110;bCOMPONENT-111;bCOMPONENT-112;bCOMPONENT-113
bCOMPONENT-114;bCOMPONENT-115;bCOMPONENT-116;bCOMPONENT-117;bCOMPONENT-118;bCOMPONENT-119
bCOMPONENT-120;bCOMPONENT-121;bCOMPONENT-122;bCOMPONENT-123;bCOMPONENT-124;bCOMPONENT-125
bCOMPONENT-126;bCOMPONENT-127;bCOMPONENT-128;bCOMPONENT-129;bCOMPONENT-130;bCOMPONENT-131
bCOMPONENT-132;bCOMPONENT-133;bCOMPONENT-134;bCOMPONENT-135;bCOMPONENT-136;bCOMPONENT-137
bCOMPONENT-138;bCOMPONENT-139;bCOMPONENT-140;bCOMPONENT-141;bCOMPONENT-142;bCOMPONENT-143
bCOMPONENT-144;bCOMPONENT-145;bCOMPONENT-146;bCOMPONENT-147;bCOMPONENT-148;bCOMPONENT-149
bCOMPONENT-150;bCOMPONENT-151;bCOMPONENT-152;bCOMPONENT-153;bCOMPONENT-154;bCOMPONENT-155
bCOMPONENT-156;bCOMPONENT-157;bCOMPONENT-158;bCOMPONENT-159;bCOMPONENT-160;bCOMPONENT-161
bCOMPONENT-162;bCOMPONENT-163;bCOMPONENT-164;bCOMPONENT-165;bCOMPONENT-166;bCOMPONENT-167
bCOMPONENT-168;bCOMPONENT-169;bCOMPONENT-170;bCOMPONENT-171;bCOMPONENT-172;bCOMPONENT-173
bCOMPONENT-174;bCOMPONENT-175;bCOMPONENT-176;bCOMPONENT-177;bCOMPONENT-178;bCOMPONENT-179
bCOMPONENT-180;bCOMPONENT-181;bCOMPONENT-182;bCOMPONENT-183;bCOMPONENT-184;bCOMPONENT-185
bCOMPONENT-186;bCOMPONENT-187;bCOMPONENT-188;bCOMPONENT-189;bCOMPONENT-190;bCOMPONENT-191
bCOMPONENT-192;bCOMPONENT-193;bCOMPONENT-194;bCOMPONENT-195;bCOMPONENT-196;bCOMPONENT-197
bCOMPONENT-198;bCOMPONENT-199;bCOMPONENT-200;bCOMPONENT-201;bCOMPONENT-202;bCOMPONENT-203
bCOMPONENT-204;bCOMPONENT-205;bCOMPONENT-206;bCOMPONENT-207;bCOMPONENT-208;bCOMPONENT-209
bCOMPONENT-210;bCOMPONENT-211;bCOMPONENT-212;bCOMPONENT-213;bCOMPONENT-214;bCOMPONENT-215
bCOMPONENT-216;bCOMPONENT-217;bCOMPONENT-218;bCOMPONENT-219;bCOMPONENT-220;bCOMPONENT-221
bCOMPONENT-222;bCOMPONENT-223;bCOMPONENT-224;bCOMPONENT-225;bCOMPONENT-226;bCOMPONENT-227
bCOMPONENT-228;bCOMPONENT-229;bCOMPONENT-230;bCOMPONENT-231;bCOMPONENT-232;bCOMPONENT-233
bCOMPONENT-234;bCOMPONENT-235;bCOMPONENT-236;bCOMPONENT-237;bCOMPONENT-238;bCOMPONENT-239
bCOMPONENT-240;bCOMPONENT-241;bCOMPONENT-242;bCOMPONENT-243;bCOMPONENT-244;bCOMPONENT-245
bCOMPONENT-246;bCOMPONENT-247;bCOMPONENT-248;bCOMPONENT-249;bCOMPONENT-250;bCOMPONENT-251
bCOMPONENT-252;bCOMPONENT-253;bCOMPONENT-254;bCOMPONENT-255;bCOMPONENT-256;bCOMPONENT-257
bCOMPONENT-258;bCOMPONENT-259;bCOMPONENT-260;bCOMPONENT-261;bCOMPONENT-262;bCOMPONENT-263
bCOMPONENT-264;bCOMPONENT-265;bCOMPONENT-266;bCOMPONENT-267;bCOMPONENT-268;bCOMPONENT-269
bCOMPONENT-270;bCOMPONENT-271;bCOMPONENT-272;bCOMPONENT-273;bCOMPONENT-274;bCOMPONENT-275
bCOMPONENT-276;bCOMPONENT-277;bCOMPONENT-278;bCOMPONENT-279;bCOMPONENT-280;bCOMPONENT-281
bCOMPONENT-282;bCOMPONENT-283;bCOMPONENT-284;bCOMPONENT-285;bCOMPONENT-286;bCOMPONENT-287
bCOMPONENT-288;bCOMPONENT-289;bCOMPONENT-290;bCOMPONENT-291;bCOMPONENT-292;bCOMPONENT-293
bCOMPONENT-294;bCOMPONENT-295;bCOMPONENT-296;bCOMPONENT-297;bCOMPONENT-298;bCOMPONENT-299
bCOMPONENT-300;bCOMPONENT-301;bCOMPONENT-302;bCOMPONENT-303;bCOMPONENT-304;bCOMPONENT-305
bCOMPONENT-306;bCOMPONENT-307;bCOMPONENT-308;bCOMPONENT-309;bCOMPONENT-310;bCOMPONENT-311
bCOMPONENT-312;bCOMPONENT-313;bCOMPONENT-314;bCOMPONENT-315;bCOMPONENT-316;bCOMPONENT-317
bCOMPONENT-318;bCOMPONENT-319;bCOMPONENT-320;bCOMPONENT-321;bCOMPONENT-322;bCOMPONENT-323
bCOMPONENT-324;bCOMPONENT-325;bCOMPONENT-326;bCOMPONENT-327;bCOMPONENT-328;bCOMPONENT-329
bCOMPONENT-330;bCOMPONENT-331;bCOMPONENT-332;bCOMPONENT-333;bCOMPONENT-334;bCOMPONENT-335
bCOMPONENT-336;bCOMPONENT-337;bCOMPONENT-338;bCOMPONENT-339;bCOMPONENT-340;bCOMPONENT-341
bCOMPONENT-342;bCOMPONENT-343;bCOMPONENT-344;bCOMPONENT-345;bCOMPONENT-346;bCOMPONENT-347
bCOMPONENT-348;bCOMPONENT-349;bCOMPONENT-350;bCOMPONENT-351;bCOMPONENT-352;bCOMPONENT-353
bCOMPONENT-354;bCOMPONENT-355;bCOMPONENT-356;bCOMPONENT-357;bCOMPONENT-358;bCOMPONENT-359
bCOMPONENT-360;bCOMPONENT-361;bCOMPONENT-362;bCOMPONENT-363;bCOMPONENT-364;bCOMPONENT-365
bCOMPONENT-366;bCOMPONENT-367;bCOMPONENT-368;bCOMPONENT-369;bCOMPONENT-370;bCOMPONENT-371
bCOMPONENT-372;bCOMPONENT-373;bCOMPONENT-374;bCOMPONENT-375;bCOMPONENT-376;bCOMPONENT-377
bCOMPONENT-378;bCOMPONENT-379;bCOMPONENT-380;bCOMPONENT-381;bCOMPONENT-382;bCOMPONENT-383
bCOMPONENT-384;bCOMPONENT-385;bCOMPONENT-386;bCOMPONENT-387;bCOMPONENT-388;bCOMPONENT-389
bCOMPONENT-390;bCOMPONENT-391;bCOMPONENT-392;bCOMPONENT-393;bCOMPONENT-394;bCOMPONENT-395
bCOMPONENT-396;bCOMPONENT-397;bCOMPONENT-398;bCOMPONENT-399;bCOMPONENT-400;bCOMPONENT-401
bCOMPONENT-402;bCOMPONENT-403;bCOMPONENT-404;bCOMPONENT-405;bCOMPONENT-406;bCOMPONENT-407
bCOMPONENT-408;bCOMPONENT-409;bCOMPONENT-410;bCOMPONENT-411;bCOMPONENT-412;bCOMPONENT-413
bCOMPONENT-414;bCOMPONENT-415;bCOMPONENT-416;bCOMPONENT-417;bCOMPONENT-418;bCOMPONENT-419
bCOMPONENT-420;bCOMPONENT-421;bCOMPONENT-422;bCOMPONENT-423;bCOMPONENT-424;bCOMPONENT-425
bCOMPONENT-426;bCOMPONENT-427;bCOMPONENT-428;bCOMPONENT-429;bCOMPONENT-430;bCOMPONENT-431
bCOMPONENT-432;bCOMPONENT-433;bCOMPONENT-434;bCOMPONENT-435;bCOMPONENT-436;bCOMPONENT-437
bCOMPONENT-438;bCOMPONENT-439;bCOMPONENT-440;bCOMPONENT-441;bCOMPONENT-442;bCOMPONENT-443
bCOMPONENT-444;bCOMPONENT-445;bCOMPONENT-446;bCOMPONENT-447;bCOMPONENT-448;bCOMPONENT-449
bCOMPONENT-450;bCOMPONENT-451;bCOMPONENT-452;bCOMPONENT-453;bCOMPONENT-454;bCOMPONENT-455
bCOMPONENT-456;bCOMPONENT-457;bCOMPONENT-458;bCOMPONENT-459;bCOMPONENT-460;bCOMPONENT-461
bCOMPONENT-462;bCOMPONENT-463;bCOMPONENT-464;bCOMPONENT-465;bCOMPONENT-466;bCOMPONENT-467
bCOMPONENT-468;bCOMPONENT-469;bCOMPONENT-470;bCOMPONENT-471;bCOMPONENT-472;bCOMPONENT-473
bCOMPONENT-474;bCOMPONENT-475;bCOMPONENT-476;bCOMPONENT-477;bCOMPONENT-478;bCOMPONENT-479
bCOMPONENT-480;bCOMPONENT-481;bCOMPONENT-482;bCOMPONENT-483;bCOMPONENT-484;bCOMPONENT-485
bCOMPONENT-486;bCOMPONENT-487;bCOMPONENT-488;bCOMPONENT-489;bCOMPONENT-490;bCOMPONENT-491
bCOMPONENT-492;bCOMPONENT-493;bCOMPONENT-494;bCOMPONENT-495;bCOMPONENT-496;bCOMPONENT-497
bCOMPONENT-498;bCOMPONENT-499;bCOMPONENT-500;bCOMPONENT-501;bCOMPONENT-502;bCOMPONENT-503
bCOMPONENT-504;bCOMPONENT-505;bCOMPONENT-506;bCOMPONENT-507;bCOMPONENT-508;bCOMPONENT-509
bCOMPONENT-510;bCOMPONENT-511;bCOMPONENT-512;bCOMPONENT-513;bCOMPONENT-514;bCOMPONENT-515
bCOMPONENT-516;bCOMPONENT-517;bCOMPONENT-518;bCOMPONENT-519;bCOMPONENT-520;bCOMPONENT-521
bCOMPONENT-522;bCOMPONENT-523;bCOMPONENT-524;bCOMPONENT-525;bCOMPONENT-526;bCOMPONENT-527
bCOMPONENT-528;bCOMPONENT-529;bCOMPONENT-530;bCOMPONENT-531;bCOMPONENT-532;bCOMPONENT-533
bCOMPONENT-534;bCOMPONENT-535;bCOMPONENT-536;bCOMPONENT-537;bCOMPONENT-538;bCOMPONENT-539
bCOMPONENT-540;bCOMPONENT-541;bCOMPONENT-542;bCOMPONENT-543;bCOMPONENT-544;bCOMPONENT-545
bCOMPONENT-546;bCOMPONENT-547;bCOMPONENT-548;bCOMPONENT-549;bCOMPONENT-550;bCOMPONENT-551
bCOMPONENT-552;bCOMPONENT-553;bCOMPONENT-554;bCOMPONENT-555;bCOMPONENT-556;bCOMPONENT-557
bCOMPONENT-558;bCOMPONENT-559;bCOMPONENT-560;bCOMPONENT-561;bCOMPONENT-562;bCOMPONENT-563
bCOMPONENT-564;bCOMPONENT-565;bCOMPONENT-566;bCOMPONENT-567;bCOMPONENT-568;bCOMPONENT-569
bCOMPONENT-570;bCOMPONENT-571;bCOMPONENT-572;bCOMPONENT-573;bCOMPONENT-574;bCOMPONENT-575
bCOMPONENT-576;bCOMPONENT-577;bCOMPONENT-578;bCOMPONENT-579;bCOMPONENT-580;bCOMPONENT-581
bCOMPONENT-582;bCOMPONENT-583;bCOMPONENT-584;bCOMPONENT-585;bCOMPONENT-586;bCOMPONENT-587
bCOMPONENT-588;bCOMPONENT-589;bCOMPONENT-590;bCOMPONENT-591;bCOMPONENT-592;bCOMPONENT-593
bCOMPONENT-594;bCOMPONENT-595;bCOMPONENT-596;bCOMPONENT-597;bCOMPONENT-598;bCOMPONENT-599
bCOMPONENT-600;bCOMPONENT-601;bCOMPONENT-602;bCOMPONENT-603;bCOMPONENT-604;bCOMPONENT-605
bCOMPONENT-606;bCOMPONENT-607;bCOMPONENT-608;bCOMPONENT-609;bCOMPONENT-610;bCOMPONENT-611
bCOMPONENT-612;bCOMPONENT-613;bCOMPONENT-614;bCOMPONENT-615;bCOMPONENT-616;bCOMPONENT-617
bCOMPONENT-618;bCOMPONENT-619;bCOMPONENT-620;bCOMPONENT-621;bCOMPONENT-622;bCOMPONENT-623
bCOMPONENT-624;bCOMPONENT-625;bCOMPONENT-626;bCOMPONENT-627;bCOMPONENT-628;bCOMPONENT-629
bCOMPONENT-630;bCOMPONENT-631;bCOMPONENT-632;bCOMPONENT-633;bCOMPONENT-634;bCOMPONENT-635
bCOMPONENT-636;bCOMPONENT-637;bCOMPONENT-638;bCOMPONENT-639;bCOMPONENT-640;bCOMPONENT-641
bCOMPONENT-642;bCOMPONENT-643;bCOMPONENT-644;bCOMPONENT-645;bCOMPONENT-646;bCOMPONENT-647
bCOMPONENT-648;bCOMPONENT-649;bCOMPONENT-650;bCOMPONENT-651;bCOMPONENT-652;bCOMPONENT-653
bCOMPONENT-654;bCOMPONENT-655;bCOMPONENT-656;bCOMPONENT-657;bCOMPONENT-658;bCOMPONENT-659
bCOMPONENT-660;bCOMPONENT-661;bCOMPONENT-662;bCOMPONENT-663;bCOMPONENT-664;bCOMPONENT-665
bCOMPONENT-666;bCOMPONENT-667;bCOMPONENT-668;bCOMPONENT-669;bCOMPONENT-670;bCOMPONENT-671
bCOMPONENT-672;bCOMPONENT-673;bCOMPONENT-674;bCOMPONENT-675;bCOMPONENT-676;bCOMPONENT-677
bCOMPONENT-678;bCOMPONENT-679;bCOMPONENT-680;bCOMPONENT-681;bCOMPONENT-682;bCOMPONENT-683
bCOMPONENT-684;bCOMPONENT-685;bCOMPONENT-686;bCOMPONENT-687;bCOMPONENT-688;bCOMPONENT-689
bCOMPONENT-690;bCOMPONENT-691;bCOMPONENT-692;bCOMPONENT-693;bCOMPONENT-694;bCOMPONENT-695
bCOMPONENT-696;bCOMPONENT-697;bCOMPONENT-698;bCOMPONENT-699;bCOMPONENT-700;bCOMPONENT-701
bCOMPONENT-702;bCOMPONENT-703;bCOMPONENT-704;bCOMPONENT-705;bCOMPONENT-706;bCOMPONENT-707
bCOMPONENT-708;bCOMPONENT-709;bCOMPONENT-710;bCOMPONENT-711;bCOMPONENT-712;bCOMPONENT-713
bCOMPONENT-714;bCOMPONENT-715;bCOMPONENT-716;bCOMPONENT-717;bCOMPONENT-718;bCOMPONENT-719
bCOMPONENT-720;bCOMPONENT-721;bCOMPONENT-722;bCOMPONENT-723;bCOMPONENT-724;bCOMPONENT-725
bCOMPONENT-726;bCOMPONENT-727;bCOMPONENT-728;bCOMPONENT-729;bCOMPONENT-730;bCOMPONENT-731
bCOMPONENT-732;bCOMPONENT-733;bCOMPONENT-734;bCOMPONENT-735;bCOMPONENT-736;bCOMPONENT-737
bCOMPONENT-738;bCOMPONENT-739;bCOMPONENT-740;bCOMPONENT-741;bCOMPONENT-742;bCOMPONENT-743
bCOMPONENT-744;bCOMPONENT-745;bCOMPONENT-746;bCOMPONENT-747;bCOMPONENT-748;bCOMPONENT-749
bCOMPONENT-750;bCOMPONENT-751;bCOMPONENT-752;bCOMPONENT-753;bCOMPONENT-754;bCOMPONENT-755
bCOMPONENT-756;bCOMPONENT-757;bCOMPONENT-758;bCOMPONENT-759;bCOMPONENT-760;bCOMPONENT-761
bCOMPONENT-762;bCOMPONENT-763;bCOMPONENT-764;bCOMPONENT-765;bCOMPONENT-766;bCOMPONENT-767
bCOMPONENT-768;aKHITAN SMALL SCRIPT CHARACTER-18B00;dCHARACTER-18B01;dCHARACTER-18B02
dCHARACTER-18B03;dCHARACTER-18B04;dCHARACTER-18B05;dCHARACTER-18B06;dCHARACTER-18B07
dCHARACTER-18B08;dCHARACTER-18B09;dCHARACTER-18B0A;dCHARACTER-18B0B;dCHARACTER-18B0C
dCHARACTER-18B0D;dCHARACTER-18B0E;dCHARACTER-18B0F;dCHARACTER-18B10;dCHARACTER-18B11
dCHARACTER-18B12;dCHARACTER-18B13;dCHARACTER-18B14;dCHARACTER-18B15;dCHARACTER-18B16
dCHARACTER-18B17;dCHARACTER-18B18;dCHARACTER-18B19;dCHARACTER-18B1A;dCHARACTER-18B1B
dCHARACTER-18B1C;dCHARACTER-18B1D;dCHARACTER-18B1E;dCHARACTER-18B1F;dCHARACTER-18B20
dCHARACTER-18B21;dCHARACTER-18B22;dCHARACTER-18B23;dCHARACTER-18B24;dCHARACTER-18B25
dCHARACTER-18B26;dCHARACTER-18B27;dCHARACTER-18B28;dCHARACTER-18B29;dCHARACTER-18B2A
dCHARACTER-18B2B;dCHARACTER-18B2C;dCHARACTER-18B2D;dCHARACTER-18B2E;dCHARACTER-18B2F
dCHARACTER-18B30;dCHARACTER-18B31;dCHARACTER-18B32;dCHARACTER-18B33;dCHARACTER-18B34
dCHARACTER-18B35;dCHARACTER-18B36;dCHARACTER-18B37;dCHARACTER-18B38;dCHARACTER-18B39
dCHARACTER-18B3A;dCHARACTER-18B3B;dCHARACTER-18B3C;dCHARACTER-18B3D;dCHARACTER-18B3E
dCHARACTER-18B3F;dCHARACTER-18B40;dCHARACTER-18B41;dCHARACTER-18B42;dCHARACTER-18B43
dCHARACTER-18B44;dCHARACTER-18B45;dCHARACTER-18B46;dCHARACTER-18B47;dCHARACTER-18B48
dCHARACTER-18B49;dCHARACTER-18B4A;dCHARACTER-18B4B;dCHARACTER-18B4C;dCHARACTER-18B4D
dCHARACTER-18B4E;dCHARACTER-18B4F;dCHARACTER-18B50;dCHARACTER-18B51;dCHARACTER-18B52
dCHARACTER-18B53;dCHARACTER-18B54;dCHARACTER-18B55;dCHARACTER-18B56;dCHARACTER-18B57
dCHARACTER-18B58;dCHARACTER-18B59;dCHARACTER-18B5A;dCHARACTER-18B5B;dCHARACTER-18B5C
dCHARACTER-18B5D;dCHARACTER-18B5E;dCHARACTER-18B5F;dCHARACTER-18B60;dCHARACTER-18B61
dCHARACTER-18B62;dCHARACTER-18B63;dCHARACTER-18B64;dCHARACTER-18B65;dCHARACTER-18B66
dCHARACTER-18B67;dCHARACTER-18B68;dCHARACTER-18B69;dCHARACTER-18B6A;dCHARACTER-18B6B
dCHARACTER-18B6C;dCHARACTER-18B6D;dCHARACTER-18B6E;dCHARACTER-18B6F;dCHARACTER-18B70
dCHARACTER-18B71;dCHARACTER-18B72;dCHARACTER-18B73;dCHARACTER-18B74;dCHARACTER-18B75
dCHARACTER-18B76;dCHARACTER-18B77;dCHARACTER-18B78;dCHARACTER-18B79;dCHARACTER-18B7A
dCHARACTER-18B7B;dCHARACTER-18B7C;dCHARACTER-18B7D;dCHARACTER-18B7E;dCHARACTER-18B7F
dCHARACTER-18B80;dCHARACTER-18B81;dCHARACTER-18B82;dCHARACTER-18B83;dCHARACTER-18B84
dCHARACTER-18B85;dCHARACTER-18B86;dCHARACTER-18B87;dCHARACTER-18B88;dCHARACTER-18B89
dCHARACTER-18B8A;dCHARACTER-18B8B;dCHARACTER-18B8C;dCHARACTER-18B8D;dCHARACTER-18B8E
dCHARACTER-18B8F;dCHARACTER-18B90;dCHARACTER-18B91;dCHARACTER-18B92;dCHARACTER-18B93
dCHARACTER-18B94;dCHARACTER-18B95;dCHARACTER-18B96;dCHARACTER-18B97;dCHARACTER-18B98
dCHARACTER-18B99;dCHARACTER-18B9A;dCHARACTER-18B9B;dCHARACTER-18B9C;dCHARACTER-18B9D
dCHARACTER-18B9E;dCHARACTER-18B9F;dCHARACTER-18BA0;dCHARACTER-18BA1;dCHARACTER-18BA2
dCHARACTER-18BA3;dCHARACTER-18BA4;dCHARACTER-18BA5;dCHARACTER-18BA6;dCHARACTER-18BA7
dCHARACTER-18BA8;dCHARACTER-18BA9;dCHARACTER-18BAA;dCHARACTER-18BAB;dCHARACTER-18BAC
dCHARACTER-18BAD;dCHARACTER-18BAE;dCHARACTER-18BAF;dCHARACTER-18BB0;dCHARACTER-18BB1
dCHARACTER-18BB2;dCHARACTER-18BB3;dCHARACTER-18BB4;dCHARACTER-18BB5;dCHARACTER-18BB6
dCHARACTER-18BB7;dCHARACTER-18BB8;dCHARACTER-18BB9;dCHARACTER-18BBA;dCHARACTER-18BBB
dCHARACTER-18BBC;dCHARACTER-18BBD;dCHARACTER-18BBE;dCHARACTER-18BBF;dCHARACTER-18BC0
dCHARACTER-18BC1;dCHARACTER-18BC2;dCHARACTER-18BC3;dCHARACTER-18BC4;dCHARACTER-18BC5
dCHARACTER-18BC6;dCHARACTER-18BC7;dCHARACTER-18BC8;dCHARACTER-18BC9;dCHARACTER-18BCA
dCHARACTER-18BCB;dCHARACTER-18BCC;dCHARACTER-18BCD;dCHARACTER-18BCE;dCHARACTER-18BCF
dCHARACTER-18BD0;dCHARACTER-18BD1;dCHARACTER-18BD2;dCHARACTER-18BD3;dCHARACTER-18BD4
dCHARACTER-18BD5;dCHARACTER-18BD6;dCHARACTER-18BD7;dCHARACTER-18BD8;dCHARACTER-18BD9
dCHARACTER-18BDA;dCHARACTER-18BDB;dCHARACTER-18BDC;dCHARACTER-18BDD;dCHARACTER-18BDE
dCHARACTER-18BDF;dCHARACTER-18BE0;dCHARACTER-18BE1;dCHARACTER-18BE2;dCHARACTER-18BE3
dCHARACTER-18BE4;dCHARACTER-18BE5;dCHARACTER-18BE6;dCHARACTER-18BE7;dCHARACTER-18BE8
dCHARACTER-18BE9;dCHARACTER-18BEA;dCHARACTER-18BEB;dCHARACTER-18BEC;dCHARACTER-18BED
dCHARACTER-18BEE;dCHARACTER-18BEF;dCHARACTER-18BF0;dCHARACTER-18BF1;dCHARACTER-18BF2
dCHARACTER-18BF3;dCHARACTER-18BF4;dCHARACTER-18BF5;dCHARACTER-18BF6;dCHARACTER-18BF7
dCHARACTER-18BF8;dCHARACTER-18BF9;dCHARACTER-18BFA;dCHARACTER-18BFB;dCHARACTER-18BFC
dCHARACTER-18BFD;dCHARACTER-18BFE;dCHARACTER-18BFF;dCHARACTER-18C00;dCHARACTER-18C01
dCHARACTER-18C02;dCHARACTER-18C03;dCHARACTER-18C04;dCHARACTER-18C05;dCHARACTER-18C06
dCHARACTER-18C07;dCHARACTER-18C08;dCHARACTER-18C09;dCHARACTER-18C0A;dCHARACTER-18C0B
dCHARACTER-18C0C;dCHARACTER-18C0D;dCHARACTER-18C0E;dCHARACTER-18C0F;dCHARACTER-18C10
dCHARACTER-18C11;dCHARACTER-18C12;dCHARACTER-18C13;dCHARACTER-18C14;dCHARACTER-18C15
dCHARACTER-18C16;dCHARACTER-18C17;dCHARACTER-18C18;dCHARACTER-18C19;dCHARACTER-18C1A
dCHARACTER-18C1B;dCHARACTER-18C1C;dCHARACTER-18C1D;dCHARACTER-18C1E;dCHARACTER-18C1F
dCHARACTER-18C20;dCHARACTER-18C21;dCHARACTER-18C22;dCHARACTER-18C23;dCHARACTER-18C24
dCHARACTER-18C25;dCHARACTER-18C26;dCHARACTER-18C27;dCHARACTER-18C28;dCHARACTER-18C29
dCHARACTER-18C2A;dCHARACTER-18C2B;dCHARACTER-18C2C;dCHARACTER-18C2D;dCHARACTER-18C2E
dCHARACTER-18C2F;dCHARACTER-18C30;dCHARACTER-18C31;dCHARACTER-18C32;dCHARACTER-18C33
dCHARACTER-18C34;dCHARACTER-18C35;dCHARACTER-18C36;dCHARACTER-18C37;dCHARACTER-18C38
dCHARACTER-18C39;dCHARACTER-18C3A;dCHARACTER-18C3B;dCHARACTER-18C3C;dCHARACTER-18C3D
dCHARACTER-18C3E;dCHARACTER-18C3F;dCHARACTER-18C40;dCHARACTER-18C41;dCHARACTER-18C42
dCHARACTER-18C43;dCHARACTER-18C44;dCHARACTER-18C45;dCHARACTER-18C46;dCHARACTER-18C47
dCHARACTER-18C48;dCHARACTER-18C49;dCHARACTER-18C4A;dCHARACTER-18C4B;dCHARACTER-18C4C
dCHARACTER-18C4D;dCHARACTER-18C4E;dCHARACTER-18C4F;dCHARACTER-18C50;dCHARACTER-18C51
dCHARACTER-18C52;dCHARACTER-18C53;dCHARACTER-18C54;dCHARACTER-18C55;dCHARACTER-18C56
dCHARACTER-18C57;dCHARACTER-18C58;dCHARACTER-18C59;dCHARACTER-18C5A;dCHARACTER-18C5B
dCHARACTER-18C5C;dCHARACTER-18C5D;dCHARACTER-18C5E;dCHARACTER-18C5F;dCHARACTER-18C60
dCHARACTER-18C61;dCHARACTER-18C62;dCHARACTER-18C63;dCHARACTER-18C64;dCHARACTER-18C65
dCHARACTER-18C66;dCHARACTER-18C67;dCHARACTER-18C68;dCHARACTER-18C69;dCHARACTER-18C6A
dCHARACTER-18C6B;dCHARACTER-18C6C;dCHARACTER-18C6D;dCHARACTER-18C6E;dCHARACTER-18C6F
dCHARACTER-18C70;dCHARACTER-18C71;dCHARACTER-18C72;dCHARACTER-18C73;dCHARACTER-18C74
dCHARACTER-18C75;dCHARACTER-18C76;dCHARACTER-18C77;dCHARACTER-18C78;dCHARACTER-18C79
dCHARACTER-18C7A;dCHARACTER-18C7B;dCHARACTER-18C7C;dCHARACTER-18C7D;dCHARACTER-18C7E
dCHARACTER-18C7F;dCHARACTER-18C80;dCHARACTER-18C81;dCHARACTER-18C82;dCHARACTER-18C83
dCHARACTER-18C84;dCHARACTER-18C85;dCHARACTER-18C86;dCHARACTER-18C87;dCHARACTER-18C88
dCHARACTER-18C89;dCHARACTER-18C8A;dCHARACTER-18C8B;dCHARACTER-18C8C;dCHARACTER-18C8D
dCHARACTER-18C8E;dCHARACTER-18C8F;dCHARACTER-18C90;dCHARACTER-18C91;dCHARACTER-18C92
dCHARACTER-18C93;dCHARACTER-18C94;dCHARACTER-18C95;dCHARACTER-18C96;dCHARACTER-18C97
dCHARACTER-18C98;dCHARACTER-18C99;dCHARACTER-18C9A;dCHARACTER-18C9B;dCHARACTER-18C9C
dCHARACTER-18C9D;dCHARACTER-18C9E;dCHARACTER-18C9F;dCHARACTER-18CA0;dCHARACTER-18CA1
dCHARACTER-18CA2;dCHARACTER-18CA3;dCHARACTER-18CA4;dCHARACTER-18CA5;dCHARACTER-18CA6
dCHARACTER-18CA7;dCHARACTER-18CA8;dCHARACTER-18CA9;dCHARACTER-18CAA;dCHARACTER-18CAB
dCHARACTER-18CAC;dCHARACTER-18CAD;dCHARACTER-18CAE;dCHARACTER-18CAF;dCHARACTER-18CB0
dCHARACTER-18CB1;dCHARACTER-18CB2;dCHARACTER-18CB3;dCHARACTER-18CB4;dCHARACTER-18CB5
dCHARACTER-18CB6;dCHARACTER-18CB7;dCHARACTER-18CB8;dCHARACTER-18CB9;dCHARACTER-18CBA
dCHARACTER-18CBB;dCHARACTER-18CBC;dCHARACTER-18CBD;dCHARACTER-18CBE;dCHARACTER-18CBF
dCHARACTER-18CC0;dCHARACTER-18CC1;dCHARACTER-18CC2;dCHARACTER-18CC3;dCHARACTER-18CC4
dCHARACTER-18CC5;dCHARACTER-18CC6;dCHARACTER-18CC7;dCHARACTER-18CC8;dCHARACTER-18CC9
dCHARACTER-18CCA;dCHARACTER-18CCB;dCHARACTER-18CCC;dCHARACTER-18CCD;dCHARACTER-18CCE
dCHARACTER-18CCF;dCHARACTER-18CD0;dCHARACTER-18CD1;dCHARACTER-18CD2;dCHARACTER-18CD3
dCHARACTER-18CD4;dCHARACTER-18CD5;@1AFF0;aKATAKANA LETTER MINNAN TONE-2;dTONE-3;dTONE-4;dTONE-5
@1AFF5;dTONE-7;dTONE-8;dNASALIZED TONE-1;eTONE-2;eTONE-3;eTONE-4;eTONE-5;@1AFFD;eTONE-7;eTONE-8
@1B000;cARCHAIC E;aHIRAGANA LETTER ARCHAIC YE;aHENTAIGANA LETTER A-1;cA-2;cA-3;cA-WO;cI-1;cI-2
cI-3;cI-4;cU-1;cU-2;cU-3;cU-4;cU-5;cE-2;cE-3;cE-4;cE-5;cE-6;cO-1;cO-2;cO-3;cKA-1;cKA-2;cKA-3;cKA-4
cKA-5;cKA-6;cKA-7;cKA-8;cKA-9;cKA-10;cKA-11;cKA-KE;cKI-1;cKI-2;cKI-3;cKI-4;cKI-5;cKI-6;cKI-7;cKI-8
cKU-1;cKU-2;cKU-3;cKU-4;cKU-5;cKU-6;cKU-7;cKE-1;cKE-2;cKE-3;cKE-4;cKE-5;cKE-6;cKO-1;cKO-2;cKO-3
cKO-KI;cSA-1;cSA-2;cSA-3;cSA-4;cSA-5;cSA-6;cSA-7;cSA-8;cSI-1;cSI-2;cSI-3;cSI-4;cSI-5;cSI-6;cSU-1
cSU-2;cSU-3;cSU-4;cSU-5;cSU-6;cSU-7;cSU-8;cSE-1;cSE-2;cSE-3;cSE-4;cSE-5;cSO-1;cSO-2;cSO-3;cSO-4
cSO-5;cSO-6;cSO-7;cTA-1;cTA-2;cTA-3;cTA-4;cTI-1;cTI-2;cTI-3;cTI-4;cTI-5;cTI-6;cTI-7;cTU-1;cTU-2
cTU-3;cTU-4;cTU-TO;cTE-1;cTE-2;cTE-3;cTE-4;cTE-5;cTE-6;cTE-7;cTE-8;cTE-9;cTO-1;cTO-2;cTO-3;cTO-4
cTO-5;cTO-6;cTO-RA;cNA-1;cNA-2;cNA-3;cNA-4;cNA-5;cNA-6;cNA-7;cNA-8;cNA-9;cNI-1;cNI-2;cNI-3;cNI-4
cNI-5;cNI-6;cNI-7;cNI-TE;cNU-1;cNU-2;cNU-3;cNE-1;cNE-2;cNE-3;cNE-4;cNE-5;cNE-6;cNE-KO;cNO-1;cNO-2
cNO-3;cNO-4;cNO-5;cHA-1;cHA-2;cHA-3;cHA-4;cHA-5;cHA-6;cHA-7;cHA-8;cHA-9;cHA-10;cHA-11;cHI-1;cHI-2
cHI-3;cHI-4;cHI-5;cHI-6;cHI-7;cHU-1;cHU-2;cHU-3;cHE-1;cHE-2;cHE-3;cHE-4;cHE-5;cHE-6;cHE-7;cHO-1
cHO-2;cHO-3;cHO-4;cHO-5;cHO-6;cHO-7;cHO-8;cMA-1;cMA-2;cMA-3;cMA-4;cMA-5;cMA-6;cMA-7;cMI-1;cMI-2
cMI-3;cMI-4;cMI-5;cMI-6;cMI-7;cMU-1;cMU-2;cMU-3;cMU-4;cME-1;cME-2;cME-MA;cMO-1;cMO-2;cMO-3;cMO-4
cMO-5;cMO-6;cYA-1;cYA-2;cYA-3;cYA-4;cYA-5;cYA-YO;cYU-1;cYU-2;cYU-3;cYU-4;cYO-1;cYO-2;cYO-3;cYO-4
cYO-5;cYO-6;cRA-1;cRA-2;cRA-3;cRA-4;cRI-1;cRI-2;cRI-3;cRI-4;cRI-5;cRI-6;cRI-7;cRU-1;cRU-2;cRU-3
cRU-4;cRU-5;cRU-6;cRE-1;cRE-2;cRE-3;cRE-4;cRO-1;cRO-2;cRO-3;cRO-4;cRO-5;cRO-6;cWA-1;cWA-2;cWA-3
cWA-4;cWA-5;cWI-1;cWI-2;cWI-3;cWI-4;cWI-5;cWE-1;cWE-2;cWE-3;cWE-4;cWO-1;cWO-2;cWO-3;cWO-4;cWO-5
cWO-6;cWO-7;cN-MU-MO-1;cN-MU-MO-2;aHIRAGANA LETTER ARCHAIC WU;aKATAKANA LETTER ARCHAIC YI;dYE;dWU
@1B150;aHIRAGANA LETTER SMALL WI;dWE;dWO;@1B164;aKATAKANA LETTER SMALL WI;dWE;dWO;dN;@1B170
aNUSHU CHARACTER-1B170;bCHARACTER-1B171;bCHARACTER-1B172;bCHARACTER-1B173;bCHARACTER-1B174
bCHARACTER-1B175;bCHARACTER-1B176;bCHARACTER-1B177;bCHARACTER-1B178;bCHARACTER-1B179
bCHARACTER-1B17A;bCHARACTER-1B17B;bCHARACTER-1B17C;bCHARACTER-1B17D;bCHARACTER-1B17E
bCHARACTER-1B17F;bCHARACTER-1B180;bCHARACTER-1B181;bCHARACTER-1B182;bCHARACTER-1B183
bCHARACTER-1B184;bCHARACTER-1B185;bCHARACTER-1B186;bCHARACTER-1B187;bCHARACTER-1B188
bCHARACTER-1B189;bCHARACTER-1B18A;bCHARACTER-1B18B;bCHARACTER-1B18C;bCHARACTER-1B18D
bCHARACTER-1B18E;bCHARACTER-1B18F;bCHARACTER-1B190;bCHARACTER-1B191;bCHARACTER-1B192
bCHARACTER-1B193;bCHARACTER-1B194;bCHARACTER-1B195;bCHARACTER-1B196;bCHARACTER-1B197
bCHARACTER-1B198;bCHARACTER-1B199;bCHARACTER-1B19A;bCHARACTER-1B19B;bCHARACTER-1B19C
bCHARACTER-1B19D;bCHARACTER-1B19E;bCHARACTER-1B19F;bCHARACTER-1B1A0;bCHARACTER-1B1A1
bCHARACTER-1B1A2;bCHARACTER-1B1A3;bCHARACTER-1B1A4;bCHARACTER-1B1A5;bCHARACTER-1B1A6
bCHARACTER-1B1A7;bCHARACTER-1B1A8;bCHARACTER-1B1A9;bCHARACTER-1B1AA;bCHARACTER-1B1AB
bCHARACTER-1B1AC;bCHARACTER-1B1AD;bCHARACTER-1B1AE;bCHARACTER-1B1AF;bCHARACTER-1B1B0
bCHARACTER-1B1B1;bCHARACTER-1B1B2;bCHARACTER-1B1B3;bCHARACTER-1B1B4;bCHARACTER-1B1B5
bCHARACTER-1B1B6;bCHARACTER-1B1B7;bCHARACTER-1B1B8;bCHARACTER-1B1B9;bCHARACTER-1B1BA
bCHARACTER-1B1BB;bCHARACTER-1B1BC;bCHARACTER-1B1BD;bCHARACTER-1B1BE;bCHARACTER-1B1BF
bCHARACTER-1B1C0;bCHARACTER-1B1C1;bCHARACTER-1B1C2;bCHARACTER-1B1C3;bCHARACTER-1B1C4
bCHARACTER-1B1C5;bCHARACTER-1B1C6;bCHARACTER-1B1C7;bCHARACTER-1B1C8;bCHARACTER-1B1C9
bCHARACTER-1B1CA;bCHARACTER-1B1CB;bCHARACTER-1B1CC;bCHARACTER-1B1CD;bCHARACTER-1B1CE
bCHARACTER-1B1CF;bCHARACTER-1B1D0;bCHARACTER-1B1D1;bCHARACTER-1B1D2;bCHARACTER-1B1D3
bCHARACTER-1B1D4;bCHARACTER-1B1D5;bCHARACTER-1B1D6;bCHARACTER-1B1D7;bCHARACTER-1B1D8
bCHARACTER-1B1D9;bCHARACTER-1B1DA;bCHARACTER-1B1DB;bCHARACTER-1B1DC;bCHARACTER-1B1DD
bCHARACTER-1B1DE;bCHARACTER-1B1DF;bCHARACTER-1B1E0;bCHARACTER-1B1E1;bCHARACTER-1B1E2
bCHARACTER-1B1E3;bCHARACTER-1B1E4;bCHARACTER-1B1E5;bCHARACTER-1B1E6;bCHARACTER-1B1E7
bCHARACTER-1B1E8;bCHARACTER-1B1E9;bCHARACTER-1B1EA;bCHARACTER-1B1EB;bCHARACTER-1B1EC
bCHARACTER-1B1ED;bCHARACTER-1B1EE;bCHARACTER-1B1EF;bCHARACTER-1B1F0;bCHARACTER-1B1F1
bCHARACTER-1B1F2;bCHARACTER-1B1F3;bCHARACTER-1B1F4;bCHARACTER-1B1F5;bCHARACTER-1B1F6
bCHARACTER-1B1F7;bCHARACTER-1B1F8;bCHARACTER-1B1F9;bCHARACTER-1B1FA;bCHARACTER-1B1FB
bCHARACTER-1B1FC;bCHARACTER-1B1FD;bCHARACTER-1B1FE;bCHARACTER-1B1FF;bCHARACTER-1B200
bCHARACTER-1B201;bCHARACTER-1B202;bCHARACTER-1B203;bCHARACTER-1B204;bCHARACTER-1B205
bCHARACTER-1B206;bCHARACTER-1B207;bCHARACTER-1B208;bCHARACTER-1B209;bCHARACTER-1B20A
bCHARACTER-1B20B;bCHARACTER-1B20C;bCHARACTER-1B20D;bCHARACTER-1B20E;bCHARACTER-1B20F
bCHARACTER-1B210;bCHARACTER-1B211;bCHARACTER-1B212;bCHARACTER-1B213;bCHARACTER-1B214
bCHARACTER-1B215;bCHARACTER-1B216;bCHARACTER-1B217;bCHARACTER-1B218;bCHARACTER-1B219
bCHARACTER-1B21A;bCHARACTER-1B21B;bCHARACTER-1B21C;bCHARACTER-1B21D;bCHARACTER-1B21E
bCHARACTER-1B21F;bCHARACTER-1B220;bCHARACTER-1B221;bCHARACTER-1B222;bCHARACTER-1B223
bCHARACTER-1B224;bCHARACTER-1B225;bCHARACTER-1B226;bCHARACTER-1B227;bCHARACTER-1B228
bCHARACTER-1B229;bCHARACTER-1B22A;bCHARACTER-1B22B;bCHARACTER-1B22C;bCHARACTER-1B22D
bCHARACTER-1B22E;bCHARACTER-1B22F;bCHARACTER-1B230;bCHARACTER-1B231;bCHARACTER-1B232
bCHARACTER-1B233;bCHARACTER-1B234;bCHARACTER-1B235;bCHARACTER-1B236;bCHARACTER-1B237
bCHARACTER-1B238;bCHARACTER-1B239;bCHARACTER-1B23A;bCHARACTER-1B23B;bCHARACTER-1B23C
bCHARACTER-1B23D;bCHARACTER-1B23E;bCHARACTER-1B23F;bCHARACTER-1B240;bCHARACTER-1B241
bCHARACTER-1B242;bCHARACTER-1B243;bCHARACTER-1B244;bCHARACTER-1B245;bCHARACTER-1B246
bCHARACTER-1B247;bCHARACTER-1B248;bCHARACTER-1B249;bCHARACTER-1B24A;bCHARACTER-1B24B
bCHARACTER-1B24C;bCHARACTER-1B24D;bCHARACTER-1B24E;bCHARACTER-1B24F;bCHARACTER-1B250
bCHARACTER-1B251;bCHARACTER-1B252;bCHARACTER-1B253;bCHARACTER-1B254;bCHARACTER-1B255
bCHARACTER-1B256;bCHARACTER-1B257;bCHARACTER-1B258;bCHARACTER-1B259;bCHARACTER-1B25A
bCHARACTER-1B25B;bCHARACTER-1B25C;bCHARACTER-1B25D;bCHARACTER-1B25E;bCHARACTER-1B25F
bCHARACTER-1B260;bCHARACTER-1B261;bCHARACTER-1B262;bCHARACTER-1B263;bCHARACTER-1B264
bCHARACTER-1B265;bCHARACTER-1B266;bCHARACTER-1B267;bCHARACTER-1B268;bCHARACTER-1B269
bCHARACTER-1B26A;bCHARACTER-1B26B;bCHARACTER-1B26C;bCHARACTER-1B26D;bCHARACTER-1B26E
bCHARACTER-1B26F;bCHARACTER-1B270;bCHARACTER-1B271;bCHARACTER-1B272;bCHARACTER-1B273
bCHARACTER-1B274;bCHARACTER-1B275;bCHARACTER-1B276;bCHARACTER-1B277;bCHARACTER-1B278
bCHARACTER-1B279;bCHARACTER-1B27A;bCHARACTER-1B27B;bCHARACTER-1B27C;bCHARACTER-1B27D
bCHARACTER-1B27E;bCHARACTER-1B27F;bCHARACTER-1B280;bCHARACTER-1B281;bCHARACTER-1B282
bCHARACTER-1B283;bCHARACTER-1B284;bCHARACTER-1B285;bCHARACTER-1B286;bCHARACTER-1B287
bCHARACTER-1B288;bCHARACTER-1B289;bCHARACTER-1B28A;bCHARACTER-1B28B;bCHARACTER-1B28C
bCHARACTER-1B28D;bCHARACTER-1B28E;bCHARACTER-1B28F;bCHARACTER-1B290;bCHARACTER-1B291
bCHARACTER-1B292;bCHARACTER-1B293;bCHARACTER-1B294;bCHARACTER-1B295;bCHARACTER-1B296
bCHARACTER-1B297;bCHARACTER-1B298;bCHARACTER-1B299;bCHARACTER-1B29A;bCHARACTER-1B29B
bCHARACTER-1B29C;bCHARACTER-1B29D;bCHARACTER-1B29E;bCHARACTER-1B29F;bCHARACTER-1B2A0
bCHARACTER-1B2A1;bCHARACTER-1B2A2;bCHARACTER-1B2A3;bCHARACTER-1B2A4;bCHARACTER-1B2A5
bCHARACTER-1B2A6;bCHARACTER-1B2A7;bCHARACTER-1B2A8;bCHARACTER-1B2A9;bCHARACTER-1B2AA
bCHARACTER-1B2AB;bCHARACTER-1B2AC;bCHARACTER-1B2AD;bCHARACTER-1B2AE;bCHARACTER-1B2AF
bCHARACTER-1B2B0;bCHARACTER-1B2B1;bCHARACTER-1B2B2;bCHARACTER-1B2B3;bCHARACTER-1B2B4
bCHARACTER-1B2B5;bCHARACTER-1B2B6;bCHARACTER-1B2B7;bCHARACTER-1B2B8;bCHARACTER-1B2B9
bCHARACTER-1B2BA;bCHARACTER-1B2BB;bCHARACTER-1B2BC;bCHARACTER-1B2BD;bCHARACTER-1B2BE
bCHARACTER-1B2BF;bCHARACTER-1B2C0;bCHARACTER-1B2C1;bCHARACTER-1B2C2;bCHARACTER-1B2C3
bCHARACTER-1B2C4;bCHARACTER-1B2C5;bCHARACTER-1B2C6;bCHARACTER-1B2C7;bCHARACTER-1B2C8
bCHARACTER-1B2C9;bCHARACTER-1B2CA;bCHARACTER-1B2CB;bCHARACTER-1B2CC;bCHARACTER-1B2CD
bCHARACTER-1B2CE;bCHARACTER-1B2CF;bCHARACTER-1B2D0;bCHARACTER-1B2D1;bCHARACTER-1B2D2
bCHARACTER-1B2D3;bCHARACTER-1B2D4;bCHARACTER-1B2D5;bCHARACTER-1B2D6;bCHARACTER-1B2D7
bCHARACTER-1B2D8;bCHARACTER-1B2D9;bCHARACTER-1B2DA;bCHARACTER-1B2DB;bCHARACTER-1B2DC
bCHARACTER-1B2DD;bCHARACTER-1B2DE;bCHARACTER-1B2DF;bCHARACTER-1B2E0;bCHARACTER-1B2E1
bCHARACTER-1B2E2;bCHARACTER-1B2E3;bCHARACTER-1B2E4;bCHARACTER-1B2E5;bCHARACTER-1B2E6
bCHARACTER-1B2E7;bCHARACTER-1B2E8;bCHARACTER-1B2E9;bCHARACTER-1B2EA;bCHARACTER-1B2EB
bCHARACTER-1B2EC;bCHARACTER-1B2ED;bCHARACTER-1B2EE;bCHARACTER-1B2EF;bCHARACTER-1B2F0
bCHARACTER-1B2F1;bCHARACTER-1B2F2;bCHARACTER-1B2F3;bCHARACTER-1B2F4;bCHARACTER-1B2F5
bCHARACTER-1B2F6;bCHARACTER-1B2F7;bCHARACTER-1B2F8;bCHARACTER-1B2F9;bCHARACTER-1B2FA
bCHARACTER-1B2FB;@1BC00;aDUPLOYAN LETTER H;cX;cP;cT;cF;cK;cL;cB;cD;cV;cG;cR;cP N;cD S;cF N;cK M
cR S;cTH;cSLOAN DH;cDH;cKK;cSLOAN J;cHL;cLH;cRH;cM;cN;cJ;cS;cM N;cN M;cJ M;cS J;cM WITH DOT
cN WITH DOT;cJ WITH DOT;eDOTS INSIDE AND ABOVE;cS WITH DOT;fBELOW;cM S;cN S;cJ S;cS S;cM N S
cN M S;cJ M S;cS J S;cJ S WITH DOT;dN;eS;cS T;eR;dP;eR;cT S;dR S;cW;cWH;cW R;cS N;dM;cK R S;cG R S
cS K;eR;cA;cSLOAN OW;cOA;cO;cAOU;cI;cE;cIE;cSHORT I;cUI;cEE;cSLOAN EH;cROMANIAN I;cSLOAN EE
cLONG I;cYE;cU;cEU;cXW;cU N;cLONG U;cROMANIAN U;cUH;cSLOAN U;cOOH;cOW;cOU;cWA;cWO;cWI;cWEI;cWOW
cNASAL U;dO;dI;dA;cPERNIN AN;dAM;cSLOAN EN;dAN;dON;cVOCALIC M;@1BC70;bAFFIX LEFT HORIZONTAL SECANT
cMID HORIZONTAL SECANT;cRIGHT HORIZONTAL SECANT;cLOW VERTICAL SECANT;cMID VERTICAL SECANT
cHIGH VERTICAL SECANT;cATTACHED SECANT;dLEFT-TO-RIGHT SECANT;dTANGENT;dTAIL;dE HOOK;dI HOOK
dTANGENT HOOK;@1BC80;cHIGH ACUTE;dTIGHT ACUTE;dGRAVE;dLONG GRAVE;dDOT;dCIRCLE;dLINE;dWAVE
dVERTICAL;@1BC90;cLOW ACUTE;dTIGHT ACUTE;dGRAVE;dLONG GRAVE;dDOT;dCIRCLE;dLINE;dWAVE;dVERTICAL
dARROW;@1BC9C;bSIGN O WITH CROSS;bTHICK LETTER SELECTOR;bDOUBLE MARK
bPUNCTUATION CHINOOK FULL STOP;aSHORTHAND FORMAT LETTER OVERLAP;cCONTINUING OVERLAP;cDOWN STEP
cUP STEP;@1CF00;aZNAMENNY COMBINING MARK GORAZDO NIZKO S KRYZHEM ON LEFT;dNIZKO S KRYZHEM ON LEFT
dTSATA ON LEFT;dGORAZDO NIZKO ON LEFT;dNIZKO ON LEFT;dSREDNE ON LEFT;dMALO POVYSHE ON LEFT
dPOVYSHE ON LEFT;dVYSOKO ON LEFT;dMALO POVYSHE S KHOKHLOM ON LEFT;dPOVYSHE S KHOKHLOM ON LEFT
dVYSOKO S KHOKHLOM ON LEFT;dGORAZDO NIZKO S KRYZHEM ON RIGHT;dNIZKO S KRYZHEM ON RIGHT
dTSATA ON RIGHT;dGORAZDO NIZKO ON RIGHT;dNIZKO ON RIGHT;dSREDNE ON RIGHT;dMALO POVYSHE ON RIGHT
dPOVYSHE ON RIGHT;dVYSOKO ON RIGHT;dMALO POVYSHE S KHOKHLOM ON RIGHT;dPOVYSHE S KHOKHLOM ON RIGHT
dVYSOKO S KHOKHLOM ON RIGHT;dTSATA S KRYZHEM;dMALO POVYSHE S KRYZHEM;dSTRANNO MALO POVYSHE
dPOVYSHE S KRYZHEM;eSTRANNO;dVYSOKO S KRYZHEM;dMALO POVYSHE STRANNO;dGORAZDO VYSOKO;dZELO;dON
dRAVNO;dTIKHAYA;dBORZAYA;dUDARKA;dPODVERTKA;dLOMKA;dKUPNAYA;dKACHKA;dZEVOK;dSKOBA;dRAZSEKA
dKRYZH ON LEFT;@1CF30;cTONAL RANGE MARK MRACHNO;fSVETLO;fTRESVETLO;cMARK ZADERZHKA
dDEMESTVENNY ZADERZHKA;dOTSECHKA;dPODCHASHIE;eWITH VERTICAL STROKE;dCHASHKA;ePOLNAYA;dOBLACHKO
dSOROCHYA NOZHKA;dTOCHKA;dDVOETOCHIE;cATTACHING VERTICAL OMET;cMARK CURVED OMET;dKRYZH
cLOWER TONAL RANGE INDICATOR;bPRIZNAK MODIFIER LEVEL-2;dLEVEL-3;dDIRECTION FLIP;dKRYZH;dROG;@1CF50
bNEUME KRYUK;dTIKHY;cPARAKLIT;cDVA V CHELNU;cKLYUCH;cZANOZHEK;cSTOPITSA;dS OCHKOM;cPEREVODKA
dNEPOSTOYANNAYA;cSTOPITSA WITH SOROCHYA NOZHKA;cCHELYUSTKA;cPALKA;cZAPYATAYA;cGOLUBCHIK BORZY
dTIKHY;dMRACHNY;dSVETLY;dTRESVETLY;cVRAKHIYA PROSTAYA;dMRACHNAYA;dSVETLAYA;dTRESVETLAYA
dKLYUCHEVAYA PROSTAYA;eMRACHNAYA;eSVETLAYA;eTRESVETLAYA;cDOUBLE ZAPYATAYA;cREVERSED CHELYUSTKA
cDERBITSA;cKHAMILO;cCHASHKA;cPODCHASHIE;cSKAMEYTSA MRACHNAYA;dSVETLAYA;dTRESVETLAYA;dTIKHAYA
cDEMESTVENNY KLYUCH;cSKAMEYTSA KLYUCHEVAYA SVETLAYA;dKLYUCHENEPOSTOYANNAYA;dKLYUCHEVAYA TIKHAYA
dDVOECHELNAYA PROSTAYA;eSVETLAYA;eNEPOSTOYANNAYA;eKLYUCHEVAYA;cSLOZHITIE;dS ZAPYATOY;dZAKRYTOE
dS KRYZHEM;cKRYZH;cROG;cFITA;cKOBYLA;cZMEYTSA;cSTATYA;dS ZAPYATOY;eKRYZHEM;eZAPYATOY I KRYZHEM
eKRYZHEM I ZAPYATOY;dZAKRYTAYA;eS ZAPYATOY;dS ROGOM;eDVUMYA ZAPYATYMI;eZAPYATOY I PODCHASHIEM
cPOLKULIZMY;cSTATYA NEPOSTOYANNAYA;cSTRELA PROSTAYA;dMRACHNOTIKHAYA;dKRYZHEVAYA;dPOLUPOVODNAYA
dPOVODNAYA;dNEPOSTOYANNAYA;dKLYUCHEPOVODNAYA;dKLYUCHENEPOSTOYANNAYA;dTIKHAYA PUTNAYA;dDVOECHELNAYA
dDVOECHELNOKRYZHEVAYA;dDVOECHELNOPOVODNAYA;dDVOECHELNAYA KLYUCHEVAYA
dDVOECHELNOPOVODNAYA KLYUCHEVAYA;dGROMNAYA WITH SINGLE ZAPYATAYA
dGROMOPOVODNAYA WITH SINGLE ZAPYATAYA;dGROMNAYA;dGROMOPOVODNAYA;eWITH DOUBLE ZAPYATAYA
dGROMOKRYZHEVAYA;ePOVODNAYA;cMECHIK;dPOVODNY;dKLYUCHEVOY;dKLYUCHEPOVODNY;dKLYUCHENEPOSTOYANNY
cSTRELA TRYASOGLASNAYA;dTRYASOPOVODNAYA;dTRYASOSTRELNAYA;cOSOKA;dSVETLAYA;dTRESVETLAYA
dKRYUKOVAYA SVETLAYA;dKLYUCHEVAYA SVETLAYA;eNEPOSTOYANNAYA;cSTRELA KRYUKOVAYA;ePOVODNAYA
eGROMNAYA WITH SINGLE ZAPYATAYA;eGROMOPOVODNAYA WITH SINGLE ZAPYATAYA;eGROMNAYA;eGROMOPOVODNAYA
fWITH DOUBLE ZAPYATAYA;eGROMOKRYZHEVAYA;fPOVODNAYA;eTRYASKA;cKUFISMA;cOBLAKO;cDUDA;cNEMKA;cPAUK
@1D000;aBYZANTINE MUSICAL SYMBOL PSILI;dDASEIA;dPERISPOMENI;dOXEIA EKFONITIKON;eDIPLI
dVAREIA EKFONITIKON;eDIPLI;dKATHISTI;dSYRMATIKI;dPARAKLITIKI;dYPOKRISIS;eDIPLI;dKREMASTI
dAPESO EKFONITIKON;dEXO EKFONITIKON;dTELEIA;dKENTIMATA;dAPOSTROFOS;eDIPLI;dSYNEVMA;dTHITA
dOLIGON ARCHAION;dGORGON ARCHAION;dPSILON;dCHAMILON;dVATHY;dISON ARCHAION;dKENTIMA ARCHAION
dKENTIMATA ARCHAION;dSAXIMATA;dPARICHON;dSTAVROS APODEXIA;dOXEIAI ARCHAION;dVAREIAI ARCHAION
dAPODERMA ARCHAION;dAPOTHEMA;dKLASMA;dREVMA;dPIASMA ARCHAION;dTINAGMA;dANATRICHISMA;dSEISMA
dSYNAGMA ARCHAION;eMETA STAVROU;dOYRANISMA ARCHAION;dTHEMA;dLEMOI;dDYO;dTRIA;dTESSERA;dKRATIMATA
dAPESO EXO NEO;dFTHORA ARCHAION;dIMIFTHORA;dTROMIKON ARCHAION;dKATAVA TROMIKON;dPELASTON
dPSIFISTON;dKONTEVMA;dCHOREVMA ARCHAION;dRAPISMA;dPARAKALESMA ARCHAION;dPARAKLITIKI ARCHAION
dICHADIN;dNANA;dPETASMA;dKONTEVMA ALLO;dTROMIKON ALLO;dSTRAGGISMATA;dGRONTHISMATA;dISON NEO
dOLIGON NEO;dOXEIA NEO;dPETASTI;dKOUFISMA;dPETASTOKOUFISMA;dKRATIMOKOUFISMA;dPELASTON NEO
dKENTIMATA NEO ANO;dKENTIMA NEO ANO;dYPSILI;dAPOSTROFOS NEO;dAPOSTROFOI SYNDESMOS NEO;dYPORROI
dKRATIMOYPORROON;dELAFRON;dCHAMILI;dMIKRON ISON;dVAREIA NEO;dPIASMA NEO;dPSIFISTON NEO;dOMALON
dANTIKENOMA;dLYGISMA;dPARAKLITIKI NEO;dPARAKALESMA NEO;dETERON PARAKALESMA;dKYLISMA
dANTIKENOKYLISMA;dTROMIKON NEO;dEKSTREPTON;dSYNAGMA NEO;dSYRMA;dCHOREVMA NEO;dEPEGERMA;dSEISMA NEO
dXIRON KLASMA;dTROMIKOPSIFISTON;dPSIFISTOLYGISMA;dTROMIKOLYGISMA;dTROMIKOPARAKALESMA
dPSIFISTOPARAKALESMA;dTROMIKOSYNAGMA;dPSIFISTOSYNAGMA;dGORGOSYNTHETON;dARGOSYNTHETON
dETERON ARGOSYNTHETON;dOYRANISMA NEO;dTHEMATISMOS ESO;eEXO;dTHEMA APLOUN;dTHES KAI APOTHES
dKATAVASMA;dENDOFONON;dYFEN KATO;eANO;dSTAVROS;dKLASMA ANO;dDIPLI ARCHAION;dKRATIMA ARCHAION;eALLO
eNEO;dAPODERMA NEO;dAPLI;dDIPLI;dTRIPLI;dTETRAPLI;dKORONIS;dLEIMMA ENOS CHRONOU;eDYO CHRONON
eTRION CHRONON;eTESSARON CHRONON;eIMISEOS CHRONOU;dGORGON NEO ANO;ePARESTIGMENON ARISTERA;fDEXIA
dDIGORGON;ePARESTIGMENON ARISTERA KATO;gANO;fDEXIA;dTRIGORGON;dARGON;dIMIDIARGON;dDIARGON
dAGOGI POLI ARGI;eARGOTERI;eARGI;eMETRIA;eMESI;eGORGI;eGORGOTERI;ePOLI GORGI
dMARTYRIA PROTOS ICHOS;eALLI PROTOS ICHOS;eDEYTEROS ICHOS;eALLI DEYTEROS ICHOS;eTRITOS ICHOS
eTRIFONIAS;eTETARTOS ICHOS;fLEGETOS ICHOS;eLEGETOS ICHOS;ePLAGIOS ICHOS;dISAKIA TELOUS ICHIMATOS
dAPOSTROFOI TELOUS ICHIMATOS;dFANEROSIS TETRAFONIAS;eMONOFONIAS;eDIFONIAS;dMARTYRIA VARYS ICHOS
ePROTOVARYS ICHOS;ePLAGIOS TETARTOS ICHOS;dGORTHMIKON N APLOUN;fDIPLOUN;dENARXIS KAI FTHORA VOU
dIMIFONON;dIMIFTHORON;dFTHORA ARCHAION DEYTEROU ICHOU;eDIATONIKI PA;fNANA;eNAOS ICHOS
eDIATONIKI DI;eSKLIRON DIATONON DI;eDIATONIKI KE;fZO;fNI KATO;gANO;eMALAKON CHROMA DIFONIAS
gMONOFONIAS;dFHTORA SKLIRON CHROMA VASIS;dFTHORA SKLIRON CHROMA SYNAFI;eNENANO;dCHROA ZYGOS
eKLITON;eSPATHI;dFTHORA I YFESIS TETARTIMORION;eENARMONIOS ANTIFONIA;dYFESIS TRITIMORION
dDIESIS TRITIMORION;eTETARTIMORION;eAPLI DYO DODEKATA;eMONOGRAMMOS TESSERA DODEKATA
eDIGRAMMOS EX DODEKATA;eTRIGRAMMOS OKTO DODEKATA;dYFESIS APLI DYO DODEKATA
eMONOGRAMMOS TESSERA DODEKATA;eDIGRAMMOS EX DODEKATA;eTRIGRAMMOS OKTO DODEKATA;dGENIKI DIESIS
eYFESIS;dDIASTOLI APLI MIKRI;fMEGALI;eDIPLI;eTHESEOS;dSIMANSIS THESEOS;fDISIMOU;fTRISIMOU
fTETRASIMOU;eARSEOS;fDISIMOU;fTRISIMOU;fTETRASIMOU;dDIGRAMMA GG;dDIFTOGGOS OU;dSTIGMA;dARKTIKO PA
eVOU;eGA;eDI;eKE;eZO;eNI;dKENTIMATA NEO MESO;dKENTIMA NEO MESO;dKENTIMATA NEO KATO
dKENTIMA NEO KATO;dKLASMA KATO;dGORGON NEO KATO;@1D100;aMUSICAL SYMBOL SINGLE BARLINE
cDOUBLE BARLINE;cFINAL BARLINE;cREVERSE FINAL BARLINE;cDASHED BARLINE;cSHORT BARLINE
cLEFT REPEAT SIGN;cRIGHT REPEAT SIGN;cREPEAT DOTS;cDAL SEGNO;cDA CAPO;cSEGNO;cCODA
cREPEATED FIGURE-1;dFIGURE-2;dFIGURE-3;cFERMATA;dBELOW;cBREATH MARK;cCAESURA;cBRACE;cBRACKET
cONE-LINE STAFF;cTWO-LINE STAFF;cTHREE-LINE STAFF;cFOUR-LINE STAFF;cFIVE-LINE STAFF
cSIX-LINE STAFF;cSIX-STRING FRETBOARD;cFOUR-STRING FRETBOARD;cG CLEF;eOTTAVA ALTA;fBASSA;cC CLEF
cF CLEF;eOTTAVA ALTA;fBASSA;cDRUM CLEF-1;dCLEF-2;@1D129;cMULTIPLE MEASURE REST;cDOUBLE SHARP;dFLAT
cFLAT UP;dDOWN;cNATURAL UP;dDOWN;cSHARP UP;dDOWN;cQUARTER TONE SHARP;eFLAT;cCOMMON TIME;cCUT TIME
cOTTAVA ALTA;dBASSA;cQUINDICESIMA ALTA;dBASSA;cMULTI REST;cWHOLE REST;cHALF REST;cQUARTER REST
cEIGHTH REST;cSIXTEENTH REST;cTHIRTY-SECOND REST;cSIXTY-FOURTH REST
cONE HUNDRED TWENTY-EIGHTH REST;cX NOTEHEAD;cPLUS NOTEHEAD;cCIRCLE X NOTEHEAD
cSQUARE NOTEHEAD WHITE;eBLACK;cTRIANGLE NOTEHEAD UP WHITE;fBLACK;eLEFT WHITE;fBLACK;eRIGHT WHITE
fBLACK;eDOWN WHITE;fBLACK;eUP RIGHT WHITE;gBLACK;cMOON NOTEHEAD WHITE;eBLACK
cTRIANGLE-ROUND NOTEHEAD DOWN WHITE;fBLACK;cPARENTHESIS NOTEHEAD;cVOID NOTEHEAD;cNOTEHEAD BLACK
cNULL NOTEHEAD;cCLUSTER NOTEHEAD WHITE;eBLACK;cBREVE;cWHOLE NOTE;cHALF NOTE;cQUARTER NOTE
cEIGHTH NOTE;cSIXTEENTH NOTE;cTHIRTY-SECOND NOTE;cSIXTY-FOURTH NOTE
cONE HUNDRED TWENTY-EIGHTH NOTE;cCOMBINING STEM;dSPRECHGESANG STEM;dTREMOLO-1;dTREMOLO-2
dTREMOLO-3;cFINGERED TREMOLO-1;dTREMOLO-2;dTREMOLO-3;cCOMBINING AUGMENTATION DOT;dFLAG-1;dFLAG-2
dFLAG-3;dFLAG-4;dFLAG-5;cBEGIN BEAM;cEND BEAM;cBEGIN TIE;cEND TIE;cBEGIN SLUR;cEND SLUR
cBEGIN PHRASE;cEND PHRASE;cCOMBINING ACCENT;dSTACCATO;dTENUTO;dSTACCATISSIMO;dMARCATO
dMARCATO-STACCATO;dACCENT-STACCATO;dLOURE;cARPEGGIATO UP;dDOWN;cCOMBINING DOIT;dRIP;dFLIP;dSMEAR
dBEND;dDOUBLE TONGUE;dTRIPLE TONGUE;cRINFORZANDO;cSUBITO;cZ;cPIANO;cMEZZO;cFORTE;cCRESCENDO
cDECRESCENDO;cGRACE NOTE SLASH;eNO SLASH;cTR;cTURN;cINVERTED TURN;cTURN SLASH;dUP
cORNAMENT STROKE-1;dSTROKE-2;dSTROKE-3;dSTROKE-4;dSTROKE-5;dSTROKE-6;dSTROKE-7;dSTROKE-8;dSTROKE-9
dSTROKE-10;dSTROKE-11;cHAUPTSTIMME;cNEBENSTIMME;cEND OF STIMME;cDEGREE SLASH;cCOMBINING DOWN BOW
dUP BOW;dHARMONIC;dSNAP PIZZICATO;cPEDAL MARK;dUP MARK;cHALF PEDAL MARK;cGLISSANDO UP;dDOWN
cWITH FINGERNAILS;cDAMP;dALL;cMAXIMA;cLONGA;cBREVIS;cSEMIBREVIS WHITE;dBLACK;cMINIMA;dBLACK
cSEMIMINIMA WHITE;dBLACK;cFUSA WHITE;dBLACK;cLONGA PERFECTA REST;dIMPERFECTA REST;cBREVIS REST
cSEMIBREVIS REST;cMINIMA REST;cSEMIMINIMA REST;cTEMPUS PERFECTUM CUM PROLATIONE PERFECTA
gIMPERFECTA;gPERFECTA DIMINUTION-1;dIMPERFECTUM CUM PROLATIONE PERFECTA;gIMPERFECTA;hDIMINUTION-1
hDIMINUTION-2;hDIMINUTION-3;cCROIX;cGREGORIAN C CLEF;dF CLEF;cSQUARE B;cVIRGA;cPODATUS;cCLIVIS
cSCANDICUS;cCLIMACUS;cTORCULUS;cPORRECTUS;dFLEXUS;cSCANDICUS FLEXUS;cTORCULUS RESUPINUS
cPES SUBPUNCTIS;cKIEVAN C CLEF;dEND OF PIECE;dFINAL NOTE;dRECITATIVE MARK;dWHOLE NOTE;dHALF NOTE
dQUARTER NOTE STEM DOWN;gUP;dEIGHTH NOTE STEM DOWN;gUP;dFLAT SIGN;cSORI;cKORON;@1D200
aGREEK VOCAL NOTATION SYMBOL-1;dSYMBOL-2;dSYMBOL-3;dSYMBOL-4;dSYMBOL-5;dSYMBOL-6;dSYMBOL-7
dSYMBOL-8;dSYMBOL-9;dSYMBOL-10;dSYMBOL-11;dSYMBOL-12;dSYMBOL-13;dSYMBOL-14;dSYMBOL-15;dSYMBOL-16
dSYMBOL-17;dSYMBOL-18;dSYMBOL-19;dSYMBOL-20;dSYMBOL-21;dSYMBOL-22;dSYMBOL-23;dSYMBOL-24;dSYMBOL-50
dSYMBOL-51;dSYMBOL-52;dSYMBOL-53;dSYMBOL-54;bINSTRUMENTAL NOTATION SYMBOL-1;dSYMBOL-2;dSYMBOL-4
dSYMBOL-5;dSYMBOL-7;dSYMBOL-8;dSYMBOL-11;dSYMBOL-12;dSYMBOL-13;dSYMBOL-14;dSYMBOL-17;dSYMBOL-18
dSYMBOL-19;dSYMBOL-23;dSYMBOL-24;dSYMBOL-25;dSYMBOL-26;dSYMBOL-27;dSYMBOL-29;dSYMBOL-30;dSYMBOL-32
dSYMBOL-36;dSYMBOL-37;dSYMBOL-38;dSYMBOL-39;dSYMBOL-40;dSYMBOL-42;dSYMBOL-43;dSYMBOL-45;dSYMBOL-47
dSYMBOL-48;dSYMBOL-49;dSYMBOL-50;dSYMBOL-51;dSYMBOL-52;dSYMBOL-53;dSYMBOL-54
aCOMBINING GREEK MUSICAL TRISEME;dTETRASEME;dPENTASEME;aGREEK MUSICAL LEIMMA;@1D2E0
aMAYAN NUMERAL ZERO;cONE;cTWO;cTHREE;cFOUR;cFIVE;cSIX;cSEVEN;cEIGHT;cNINE;cTEN;cELEVEN;cTWELVE
cTHIRTEEN;cFOURTEEN;cFIFTEEN;cSIXTEEN;cSEVENTEEN;cEIGHTEEN;cNINETEEN;@1D300;aMONOGRAM FOR EARTH
aDIGRAM FOR HEAVENLY EARTH;cHUMAN EARTH;cEARTHLY HEAVEN;dHUMAN;cEARTH;aTETRAGRAM FOR CENTRE
cFULL CIRCLE;cMIRED;cBARRIER;cKEEPING SMALL;cCONTRARIETY;cASCENT;cOPPOSITION;cBRANCHING OUT
cDEFECTIVENESS OR DISTORTION;cDIVERGENCE;cYOUTHFULNESS;cINCREASE;cPENETRATION;cREACH;cCONTACT
cHOLDING BACK;cWAITING;cFOLLOWING;cADVANCE;cRELEASE;cRESISTANCE;cEASE;cJOY;cCONTENTION;cENDEAVOUR
cDUTIES;cCHANGE;cDECISIVENESS;cBOLD RESOLUTION;cPACKING;cLEGION;cCLOSENESS;cKINSHIP;cGATHERING
cSTRENGTH;cPURITY;cFULLNESS;cRESIDENCE;cLAW OR MODEL;cRESPONSE;cGOING TO MEET;cENCOUNTERS;cSTOVE
cGREATNESS;cENLARGEMENT;cPATTERN;cRITUAL;cFLIGHT;cVASTNESS OR WASTING;cCONSTANCY;cMEASURE
cETERNITY;cUNITY;cDIMINISHMENT;cCLOSED MOUTH;cGUARDEDNESS;cGATHERING IN;cMASSING;cACCUMULATION
cEMBELLISHMENT;cDOUBT;cWATCH;cSINKING;cINNER;cDEPARTURE;cDARKENING;cDIMMING;cEXHAUSTION;cSEVERANCE
cSTOPPAGE;cHARDNESS;cCOMPLETION;cCLOSURE;cFAILURE;cAGGRAVATION;cCOMPLIANCE;cON THE VERGE
cDIFFICULTIES;cLABOURING;cFOSTERING;@1D360;aCOUNTING ROD UNIT DIGIT ONE;eTWO;eTHREE;eFOUR;eFIVE
eSIX;eSEVEN;eEIGHT;eNINE;cTENS DIGIT ONE;eTWO;eTHREE;eFOUR;eFIVE;eSIX;eSEVEN;eEIGHT;eNINE
aIDEOGRAPHIC TALLY MARK ONE;dTWO;dTHREE;dFOUR;dFIVE;aTALLY MARK ONE;cFIVE;@1D400
aMATHEMATICAL BOLD CAPITAL A;dB;dC;dD;dE;dF;dG;dH;dI;dJ;dK;dL;dM;dN;dO;dP;dQ;dR;dS;dT;dU;dV;dW;dX
dY;dZ;cSMALL A;dB;dC;dD;dE;dF;dG;dH;dI;dJ;dK;dL;dM;dN;dO;dP;dQ;dR;dS;dT;dU;dV;dW;dX;dY;dZ
bITALIC CAPITAL A;dB;dC;dD;dE;dF;dG;dH;dI;dJ;dK;dL;dM;dN;dO;dP;dQ;dR;dS;dT;dU;dV;dW;dX;dY;dZ
cSMALL A;dB;dC;dD;dE;dF;dG;@1D456;dI;dJ;dK;dL;dM;dN;dO;dP;dQ;dR;dS;dT;dU;dV;dW;dX;dY;dZ
bBOLD ITALIC CAPITAL A;eB;eC;eD;eE;eF;eG;eH;eI;eJ;eK;eL;eM;eN;eO;eP;eQ;eR;eS;eT;eU;eV;eW;eX;eY;eZ
dSMALL A;eB;eC;eD;eE;eF;eG;eH;eI;eJ;eK;eL;eM;eN;eO;eP;eQ;eR;eS;eT;eU;eV;eW;eX;eY;eZ
bSCRIPT CAPITAL A;@1D49E;dC;dD;@1D4A2;dG;@1D4A5;dJ;dK;@1D4A9;dN;dO;dP;dQ;@1D4AE;dS;dT;dU;dV;dW;dX
dY;dZ;cSMALL A;dB;dC;dD;@1D4BB;dF;@1D4BD;dH;dI;dJ;dK;dL;dM;dN;@1D4C5;dP;dQ;dR;dS;dT;dU;dV;dW;dX;dY
dZ;bBOLD SCRIPT CAPITAL A;eB;eC;eD;eE;eF;eG;eH;eI;eJ;eK;eL;eM;eN;eO;eP;eQ;eR;eS;eT;eU;eV;eW;eX;eY
eZ;dSMALL A;eB;eC;eD;eE;eF;eG;eH;eI;eJ;eK;eL;eM;eN;eO;eP;eQ;eR;eS;eT;eU;eV;eW;eX;eY;eZ
bFRAKTUR CAPITAL A;dB;@1D507;dD;dE;dF;dG;@1D50D;dJ;dK;dL;dM;dN;dO;dP;dQ;@1D516;dS;dT;dU;dV;dW;dX
dY;@1D51E;cSMALL A;dB;dC;dD;dE;dF;dG;dH;dI;dJ;dK;dL;dM;dN;dO;dP;dQ;dR;dS;dT;dU;dV;dW;dX;dY;dZ
bDOUBLE-STRUCK CAPITAL A;dB;@1D53B;dD;dE;dF;dG;@1D540;dI;dJ;dK;dL;dM;@1D546;dO;@1D54A;dS;dT;dU;dV
dW;dX;dY;@1D552;cSMALL A;dB;dC;dD;dE;dF;dG;dH;dI;dJ;dK;dL;dM;dN;dO;dP;dQ;dR;dS;dT;dU;dV;dW;dX;dY
dZ;bBOLD FRAKTUR CAPITAL A;eB;eC;eD;eE;eF;eG;eH;eI;eJ;eK;eL;eM;eN;eO;eP;eQ;eR;eS;eT;eU;eV;eW;eX;eY
eZ;dSMALL A;eB;eC;eD;eE;eF;eG;eH;eI;eJ;eK;eL;eM;eN;eO;eP;eQ;eR;eS;eT;eU;eV;eW;eX;eY;eZ
bSANS-SERIF CAPITAL A;dB;dC;dD;dE;dF;dG;dH;dI;dJ;dK;dL;dM;dN;dO;dP;dQ;dR;dS;dT;dU;dV;dW;dX;dY;dZ
cSMALL A;dB;dC;dD;dE;dF;dG;dH;dI;dJ;dK;dL;dM;dN;dO;dP;dQ;dR;dS;dT;dU;dV;dW;dX;dY;dZ
cBOLD CAPITAL A;eB;eC;eD;eE;eF;eG;eH;eI;eJ;eK;eL;eM;eN;eO;eP;eQ;eR;eS;eT;eU;eV;eW;eX;eY;eZ
dSMALL A;eB;eC;eD;eE;eF;eG;eH;eI;eJ;eK;eL;eM;eN;eO;eP;eQ;eR;eS;eT;eU;eV;eW;eX;eY;eZ
cITALIC CAPITAL A;eB;eC;eD;eE;eF;eG;eH;eI;eJ;eK;eL;eM;eN;eO;eP;eQ;eR;eS;eT;eU;eV;eW;eX;eY;eZ
dSMALL A;eB;eC;eD;eE;eF;eG;eH;eI;eJ;eK;eL;eM;eN;eO;eP;eQ;eR;eS;eT;eU;eV;eW;eX;eY;eZ
cBOLD ITALIC CAPITAL A;fB;fC;fD;fE;fF;fG;fH;fI;fJ;fK;fL;fM;fN;fO;fP;fQ;fR;fS;fT;fU;fV;fW;fX;fY;fZ
eSMALL A;fB;fC;fD;fE;fF;fG;fH;fI;fJ;fK;fL;fM;fN;fO;fP;fQ;fR;fS;fT;fU;fV;fW;fX;fY;fZ
bMONOSPACE CAPITAL A;dB;dC;dD;dE;dF;dG;dH;dI;dJ;dK;dL;dM;dN;dO;dP;dQ;dR;dS;dT;dU;dV;dW;dX;dY;dZ
cSMALL A;dB;dC;dD;dE;dF;dG;dH;dI;dJ;dK;dL;dM;dN;dO;dP;dQ;dR;dS;dT;dU;dV;dW;dX;dY;dZ
bITALIC SMALL DOTLESS I;eJ;@1D6A8;bBOLD CAPITAL ALPHA;dBETA;dGAMMA;dDELTA;dEPSILON;dZETA;dETA
dTHETA;dIOTA;dKAPPA;dLAMDA;dMU;dNU;dXI;dOMICRON;dPI;dRHO;dTHETA SYMBOL;dSIGMA;dTAU;dUPSILON;dPHI
dCHI;dPSI;dOMEGA;cNABLA;cSMALL ALPHA;dBETA;dGAMMA;dDELTA;dEPSILON;dZETA;dETA;dTHETA;dIOTA;dKAPPA
dLAMDA;dMU;dNU;dXI;dOMICRON;dPI;dRHO;dFINAL SIGMA;dSIGMA;dTAU;dUPSILON;dPHI;dCHI;dPSI;dOMEGA
cPARTIAL DIFFERENTIAL;cEPSILON SYMBOL;cTHETA SYMBOL;cKAPPA SYMBOL;cPHI SYMBOL;cRHO SYMBOL
cPI SYMBOL;bITALIC CAPITAL ALPHA;dBETA;dGAMMA;dDELTA;dEPSILON;dZETA;dETA;dTHETA;dIOTA;dKAPPA
dLAMDA;dMU;dNU;dXI;dOMICRON;dPI;dRHO;dTHETA SYMBOL;dSIGMA;dTAU;dUPSILON;dPHI;dCHI;dPSI;dOMEGA
cNABLA;cSMALL ALPHA;dBETA;dGAMMA;dDELTA;dEPSILON;dZETA;dETA;dTHETA;dIOTA;dKAPPA;dLAMDA;dMU;dNU;dXI
dOMICRON;dPI;dRHO;dFINAL SIGMA;dSIGMA;dTAU;dUPSILON;dPHI;dCHI;dPSI;dOMEGA;cPARTIAL DIFFERENTIAL
cEPSILON SYMBOL;cTHETA SYMBOL;cKAPPA SYMBOL;cPHI SYMBOL;cRHO SYMBOL;cPI SYMBOL
bBOLD ITALIC CAPITAL ALPHA;eBETA;eGAMMA;eDELTA;eEPSILON;eZETA;eETA;eTHETA;eIOTA;eKAPPA;eLAMDA;eMU
eNU;eXI;eOMICRON;ePI;eRHO;eTHETA SYMBOL;eSIGMA;eTAU;eUPSILON;ePHI;eCHI;ePSI;eOMEGA;dNABLA
dSMALL ALPHA;eBETA;eGAMMA;eDELTA;eEPSILON;eZETA;eETA;eTHETA;eIOTA;eKAPPA;eLAMDA;eMU;eNU;eXI
eOMICRON;ePI;eRHO;eFINAL SIGMA;eSIGMA;eTAU;eUPSILON;ePHI;eCHI;ePSI;eOMEGA;dPARTIAL DIFFERENTIAL
dEPSILON SYMBOL;dTHETA SYMBOL;dKAPPA SYMBOL;dPHI SYMBOL;dRHO SYMBOL;dPI SYMBOL
bSANS-SERIF BOLD CAPITAL ALPHA;eBETA;eGAMMA;eDELTA;eEPSILON;eZETA;eETA;eTHETA;eIOTA;eKAPPA;eLAMDA
eMU;eNU;eXI;eOMICRON;ePI;eRHO;eTHETA SYMBOL;eSIGMA;eTAU;eUPSILON;ePHI;eCHI;ePSI;eOMEGA;dNABLA
dSMALL ALPHA;eBETA;eGAMMA;eDELTA;eEPSILON;eZETA;eETA;eTHETA;eIOTA;eKAPPA;eLAMDA;eMU;eNU;eXI
eOMICRON;ePI;eRHO;eFINAL SIGMA;eSIGMA;eTAU;eUPSILON;ePHI;eCHI;ePSI;eOMEGA;dPARTIAL DIFFERENTIAL
dEPSILON SYMBOL;dTHETA SYMBOL;dKAPPA SYMBOL;dPHI SYMBOL;dRHO SYMBOL;dPI SYMBOL
dITALIC CAPITAL ALPHA;fBETA;fGAMMA;fDELTA;fEPSILON;fZETA;fETA;fTHETA;fIOTA;fKAPPA;fLAMDA;fMU;fNU
fXI;fOMICRON;fPI;fRHO;fTHETA SYMBOL;fSIGMA;fTAU;fUPSILON;fPHI;fCHI;fPSI;fOMEGA;eNABLA;eSMALL ALPHA
fBETA;fGAMMA;fDELTA;fEPSILON;fZETA;fETA;fTHETA;fIOTA;fKAPPA;fLAMDA;fMU;fNU;fXI;fOMICRON;fPI;fRHO
fFINAL SIGMA;fSIGMA;fTAU;fUPSILON;fPHI;fCHI;fPSI;fOMEGA;ePARTIAL DIFFERENTIAL;eEPSILON SYMBOL
eTHETA SYMBOL;eKAPPA SYMBOL;ePHI SYMBOL;eRHO SYMBOL;ePI SYMBOL;bBOLD CAPITAL DIGAMMA
cSMALL DIGAMMA;@1D7CE;cDIGIT ZERO;dONE;dTWO;dTHREE;dFOUR;dFIVE;dSIX;dSEVEN;dEIGHT;dNINE
bDOUBLE-STRUCK DIGIT ZERO;dONE;dTWO;dTHREE;dFOUR;dFIVE;dSIX;dSEVEN;dEIGHT;dNINE
bSANS-SERIF DIGIT ZERO;dONE;dTWO;dTHREE;dFOUR;dFIVE;dSIX;dSEVEN;dEIGHT;dNINE;cBOLD DIGIT ZERO;eONE
eTWO;eTHREE;eFOUR;eFIVE;eSIX;eSEVEN;eEIGHT;eNINE;bMONOSPACE DIGIT ZERO;dONE;dTWO;dTHREE;dFOUR
dFIVE;dSIX;dSEVEN;dEIGHT;dNINE;aSIGNWRITING HAND-FIST INDEX;bHAND-CIRCLE INDEX;bHAND-CUP INDEX
bHAND-OVAL INDEX;bHAND-HINGE INDEX;bHAND-ANGLE INDEX;bHAND-FIST INDEX BENT;bHAND-CIRCLE INDEX BENT
bHAND-FIST THUMB UNDER INDEX BENT;cINDEX RAISED KNUCKLE;dCUPPED;dHINGED;eLOW
bHAND-CIRCLE INDEX HINGE;bHAND-FIST INDEX MIDDLE;bHAND-CIRCLE INDEX MIDDLE
bHAND-FIST INDEX MIDDLE BENT;eRAISED KNUCKLES;eHINGED;dUP MIDDLE HINGED;dHINGED MIDDLE UP
dMIDDLE CONJOINED;fINDEX BENT;fMIDDLE BENT;fCUPPED;fHINGED;eCROSSED
bHAND-CIRCLE INDEX MIDDLE CROSSED;bHAND-FIST MIDDLE BENT OVER INDEX;cINDEX BENT OVER MIDDLE
dMIDDLE THUMB;bHAND-CIRCLE INDEX MIDDLE THUMB;bHAND-FIST INDEX MIDDLE STRAIGHT THUMB BENT
eBENT THUMB STRAIGHT;eTHUMB BENT;eHINGED SPREAD THUMB SIDE;dUP MIDDLE HINGED THUMB SIDE;hCONJOINED
dHINGED MIDDLE UP THUMB SIDE;dMIDDLE UP SPREAD THUMB FORWARD;eTHUMB CUPPED;fCIRCLED;fHOOKED
fHINGED;cTHUMB BETWEEN INDEX MIDDLE STRAIGHT;cINDEX MIDDLE CONJOINED THUMB SIDE;hCONJOINED;hBENT
cMIDDLE THUMB HOOKED INDEX UP;cINDEX THUMB HOOKED MIDDLE UP;dMIDDLE CONJOINED HINGED THUMB SIDE
eCROSSED THUMB SIDE;eCONJOINED THUMB FORWARD;fCUPPED THUMB FORWARD;cMIDDLE THUMB CUPPED INDEX UP
cINDEX THUMB CUPPED MIDDLE UP;cMIDDLE THUMB CIRCLED INDEX UP;gHINGED
cINDEX THUMB ANGLED OUT MIDDLE UP;fIN MIDDLE UP;eCIRCLED MIDDLE UP;dMIDDLE THUMB CONJOINED HINGED
fANGLED OUT;fANGLED;cMIDDLE THUMB ANGLED OUT INDEX UP;hCROSSED;fINDEX UP
cINDEX THUMB HOOKED MIDDLE HINGED;bHAND-FLAT FOUR FINGERS;eBENT;eHINGED;eCONJOINED;fSPLIT
bHAND-CLAW FOUR FINGERS CONJOINED;bHAND-FIST FOUR FINGERS CONJOINED BENT
bHAND-HINGE FOUR FINGERS CONJOINED;bHAND-FLAT FIVE FINGERS SPREAD;cHEEL FIVE FINGERS SPREAD
cFIVE FINGERS SPREAD FOUR BENT;cHEEL FIVE FINGERS SPREAD FOUR BENT;cFIVE FINGERS SPREAD BENT
cHEEL FIVE FINGERS SPREAD BENT;cFIVE FINGERS SPREAD THUMB FORWARD;bHAND-CUP FIVE FINGERS SPREAD
fOPEN;bHAND-HINGE FIVE FINGERS SPREAD OPEN;bHAND-OVAL FIVE FINGERS SPREAD
bHAND-FLAT FIVE FINGERS SPREAD HINGED;gTHUMB SIDE;gNO THUMB;bHAND-FLAT;cBETWEEN PALM FACINGS;cHEEL
cTHUMB SIDE;cHEEL THUMB SIDE;cTHUMB BENT;dFORWARD;cSPLIT INDEX THUMB SIDE;dCENTRE;eTHUMB SIDE
gBENT;dLITTLE;bHAND-CLAW;cTHUMB SIDE;cNO THUMB;cTHUMB FORWARD;bHAND-HOOK CURLICUE;bHAND-HOOK
bHAND-CUP OPEN;bHAND-CUP;cOPEN THUMB SIDE;cTHUMB SIDE;cOPEN NO THUMB;cNO THUMB;cOPEN THUMB FORWARD
cTHUMB FORWARD;bHAND-CURLICUE OPEN;bHAND-CURLICUE;bHAND-CIRCLE;bHAND-OVAL;cTHUMB SIDE;cNO THUMB
cTHUMB FORWARD;bHAND-HINGE OPEN;dTHUMB FORWARD;bHAND-HINGE;cSMALL;cOPEN THUMB SIDE;cTHUMB SIDE
cOPEN NO THUMB;cNO THUMB;cTHUMB SIDE TOUCHING INDEX;dBETWEEN MIDDLE RING;bHAND-ANGLE
bHAND-FIST INDEX MIDDLE RING;bHAND-CIRCLE INDEX MIDDLE RING;bHAND-HINGE INDEX MIDDLE RING
bHAND-ANGLE INDEX MIDDLE RING;bHAND-HINGE LITTLE;bHAND-FIST INDEX MIDDLE RING BENT;fCONJOINED
bHAND-HINGE INDEX MIDDLE RING CONJOINED;bHAND-FIST LITTLE DOWN;eRIPPLE STRAIGHT;fCURVED
eOTHERS CIRCLED;dUP;cTHUMB UNDER LITTLE UP;bHAND-CIRCLE LITTLE UP;bHAND-OVAL LITTLE UP
bHAND-ANGLE LITTLE UP;bHAND-FIST LITTLE RAISED KNUCKLE;dBENT;dTOUCHES THUMB;dTHUMB
bHAND-HINGE LITTLE THUMB;bHAND-FIST LITTLE INDEX THUMB;bHAND-HINGE LITTLE INDEX THUMB
bHAND-ANGLE LITTLE INDEX THUMB INDEX THUMB OUT;gTHUMB;bHAND-FIST LITTLE INDEX
bHAND-CIRCLE LITTLE INDEX;bHAND-HINGE LITTLE INDEX;bHAND-ANGLE LITTLE INDEX
bHAND-FIST INDEX MIDDLE LITTLE;bHAND-CIRCLE INDEX MIDDLE LITTLE;bHAND-HINGE INDEX MIDDLE LITTLE
cRING;bHAND-ANGLE INDEX MIDDLE LITTLE;bHAND-FIST INDEX MIDDLE CROSS LITTLE
bHAND-CIRCLE INDEX MIDDLE CROSS LITTLE;bHAND-FIST RING DOWN
bHAND-HINGE RING DOWN INDEX THUMB HOOK MIDDLE;bHAND-ANGLE RING DOWN MIDDLE THUMB INDEX CROSS
bHAND-FIST RING UP;dRAISED KNUCKLE;dLITTLE;bHAND-CIRCLE RING LITTLE;bHAND-OVAL RING LITTLE
bHAND-ANGLE RING LITTLE;bHAND-FIST RING MIDDLE;eCONJOINED;eRAISED KNUCKLES;dINDEX;dTHUMB
bHAND-HOOK RING THUMB;bHAND-FIST INDEX RING LITTLE;bHAND-CIRCLE INDEX RING LITTLE
bHAND-CURLICUE INDEX RING LITTLE ON;bHAND-HOOK INDEX RING LITTLE OUT;fIN;fUNDER
bHAND-CUP INDEX RING LITTLE;bHAND-HINGE INDEX RING LITTLE;bHAND-ANGLE INDEX RING LITTLE OUT
eLITTLE;bHAND-FIST MIDDLE DOWN;bHAND-HINGE MIDDLE;bHAND-FIST MIDDLE UP;bHAND-CIRCLE MIDDLE UP
bHAND-FIST MIDDLE RAISED KNUCKLE;dUP THUMB SIDE;bHAND-HOOK MIDDLE THUMB
bHAND-FIST MIDDLE THUMB LITTLE;dLITTLE;dRING LITTLE;bHAND-CIRCLE MIDDLE RING LITTLE
bHAND-CURLICUE MIDDLE RING LITTLE ON;bHAND-CUP MIDDLE RING LITTLE;bHAND-HINGE MIDDLE RING LITTLE
bHAND-ANGLE MIDDLE RING LITTLE OUT;fIN;eLITTLE;bHAND-CIRCLE MIDDLE RING LITTLE BENT
bHAND-CLAW MIDDLE RING LITTLE CONJOINED;gSIDE;bHAND-HOOK MIDDLE RING LITTLE CONJOINED OUT;gIN
fCONJOINED;bHAND-HINGE INDEX HINGED;bHAND-FIST INDEX THUMB SIDE;bHAND-HINGE INDEX THUMB SIDE
bHAND-FIST INDEX THUMB SIDE THUMB DIAGONAL;gCONJOINED;gBENT;fINDEX BENT;fBOTH BENT;fINDEX HINGE
eFORWARD INDEX STRAIGHT;gBENT;eHOOK;eCURLICUE;eCURVE THUMB INSIDE
bHAND-CLAW INDEX THUMB CURVE THUMB INSIDE;bHAND-FIST INDEX THUMB CURVE THUMB UNDER;eCIRCLE
bHAND-CUP INDEX THUMB;eOPEN;bHAND-HINGE INDEX THUMB OPEN;eLARGE;dTHUMB;eSMALL
bHAND-ANGLE INDEX THUMB OUT;eIN;dTHUMB;bHAND-FIST THUMB;dHEEL;dSIDE DIAGONAL;eCONJOINED;eBENT
dFORWARD;dBETWEEN INDEX MIDDLE;eMIDDLE RING;eRING LITTLE;dUNDER TWO FINGERS;dOVER TWO FINGERS
dUNDER THREE FINGERS;eFOUR FINGERS;dOVER FOUR RAISED KNUCKLES;bHAND-FIST;cHEEL;bTOUCH SINGLE
cMULTIPLE;cBETWEEN;bGRASP SINGLE;cMULTIPLE;cBETWEEN;bSTRIKE SINGLE;cMULTIPLE;cBETWEEN
bBRUSH SINGLE;cMULTIPLE;cBETWEEN;bRUB SINGLE;cMULTIPLE;cBETWEEN;bSURFACE SYMBOLS;cBETWEEN
bSQUEEZE LARGE SINGLE;cSMALL SINGLE;cLARGE MULTIPLE;cSMALL MULTIPLE;cSEQUENTIAL
bFLICK LARGE SINGLE;cSMALL SINGLE;cLARGE MULTIPLE;cSMALL MULTIPLE;cSEQUENTIAL
bSQUEEZE FLICK ALTERNATING;bMOVEMENT-HINGE UP DOWN LARGE;eSMALL;dSEQUENTIAL;cDOWN SEQUENTIAL
cUP DOWN ALTERNATING LARGE;fSMALL;cSIDE TO SIDE SCISSORS;bMOVEMENT-WALLPLANE FINGER CONTACT
bMOVEMENT-FLOORPLANE FINGER CONTACT;bMOVEMENT-WALLPLANE SINGLE STRAIGHT SMALL;eMEDIUM;eLARGE
eLARGEST;dWRIST FLEX;cDOUBLE STRAIGHT;dWRIST FLEX;dALTERNATING;eWRIST FLEX;cCROSS
cTRIPLE STRAIGHT MOVEMENT;dWRIST FLEX;dALTERNATING;eWRIST FLEX;cBEND SMALL;dMEDIUM;dLARGE
cCORNER SMALL;dMEDIUM;dLARGE;dROTATION;cCHECK SMALL;dMEDIUM;dLARGE;cBOX SMALL;dMEDIUM;dLARGE
cZIGZAG SMALL;dMEDIUM;dLARGE;cPEAKS SMALL;dMEDIUM;dLARGE
bTRAVEL-WALLPLANE ROTATION-WALLPLANE SINGLE;dDOUBLE;dALTERNATING;cROTATION-FLOORPLANE SINGLE
dDOUBLE;dALTERNATING;cSHAKING;cARM SPIRAL SINGLE;eDOUBLE;eTRIPLE;bMOVEMENT-DIAGONAL AWAY SMALL
dMEDIUM;dLARGE;dLARGEST;cTOWARDS SMALL;dMEDIUM;dLARGE;dLARGEST;cBETWEEN AWAY SMALL;eMEDIUM;eLARGE
eLARGEST;dTOWARDS SMALL;eMEDIUM;eLARGE;eLARGEST;bMOVEMENT-FLOORPLANE SINGLE STRAIGHT SMALL;eMEDIUM
eLARGE;eLARGEST;dWRIST FLEX;cDOUBLE STRAIGHT;dWRIST FLEX;dALTERNATING;eWRIST FLEX;cCROSS
cTRIPLE STRAIGHT MOVEMENT;dWRIST FLEX;dALTERNATING MOVEMENT;eWRIST FLEX;cBEND;cCORNER SMALL
dMEDIUM;dLARGE;cCHECK;cBOX SMALL;dMEDIUM;dLARGE;cZIGZAG SMALL;dMEDIUM;dLARGE;cPEAKS SMALL;dMEDIUM
dLARGE;bTRAVEL-FLOORPLANE ROTATION-FLOORPLANE SINGLE;dDOUBLE;dALTERNATING
cROTATION-WALLPLANE SINGLE;dDOUBLE;dALTERNATING;cSHAKING;bMOVEMENT-WALLPLANE CURVE QUARTER SMALL
eMEDIUM;eLARGE;eLARGEST;dHALF-CIRCLE SMALL;eMEDIUM;eLARGE;eLARGEST;dTHREE-QUARTER CIRCLE SMALL
fMEDIUM;cHUMP SMALL;dMEDIUM;dLARGE;cLOOP SMALL;dMEDIUM;dLARGE;dSMALL DOUBLE
cWAVE CURVE DOUBLE SMALL;fMEDIUM;fLARGE;eTRIPLE SMALL;fMEDIUM;fLARGE;cCURVE THEN STRAIGHT
cCURVED CROSS SMALL;eMEDIUM;bROTATION-WALLPLANE SINGLE;cDOUBLE;cALTERNATE
bMOVEMENT-WALLPLANE SHAKING;cCURVE HITTING FRONT WALL;cHUMP HITTING FRONT WALL
cLOOP HITTING FRONT WALL;cWAVE HITTING FRONT WALL;bROTATION-WALLPLANE SINGLE HITTING FRONT WALL
cDOUBLE HITTING FRONT WALL;cALTERNATING HITTING FRONT WALL;bMOVEMENT-WALLPLANE CURVE HITTING CHEST
cHUMP HITTING CHEST;cLOOP HITTING CHEST;cWAVE HITTING CHEST
bROTATION-WALLPLANE SINGLE HITTING CHEST;cDOUBLE HITTING CHEST;cALTERNATING HITTING CHEST
bMOVEMENT-WALLPLANE WAVE DIAGONAL PATH SMALL;fMEDIUM;fLARGE
bMOVEMENT-FLOORPLANE CURVE HITTING CEILING SMALL;fLARGE;cHUMP HITTING CEILING SMALL DOUBLE
fLARGE DOUBLE;fSMALL TRIPLE;fLARGE TRIPLE;cLOOP HITTING CEILING SMALL SINGLE;fLARGE SINGLE
fSMALL DOUBLE;fLARGE DOUBLE;cWAVE HITTING CEILING SMALL;fLARGE
bROTATION-FLOORPLANE SINGLE HITTING CEILING;cDOUBLE HITTING CEILING;cALTERNATING HITTING CEILING
bMOVEMENT-FLOORPLANE CURVE HITTING FLOOR SMALL;fLARGE;cHUMP HITTING FLOOR SMALL DOUBLE
fLARGE DOUBLE;fTRIPLE SMALL TRIPLE;gLARGE TRIPLE;cLOOP HITTING FLOOR SMALL SINGLE;fLARGE SINGLE
fSMALL DOUBLE;fLARGE DOUBLE;cWAVE HITTING FLOOR SMALL;fLARGE
bROTATION-FLOORPLANE SINGLE HITTING FLOOR;cDOUBLE HITTING FLOOR;cALTERNATING HITTING FLOOR
bMOVEMENT-FLOORPLANE CURVE SMALL;dMEDIUM;dLARGE;dLARGEST;dCOMBINED;cHUMP SMALL;cLOOP SMALL
cWAVE SNAKE;dSMALL;dLARGE;bROTATION-FLOORPLANE SINGLE;cDOUBLE;cALTERNATING
bMOVEMENT-FLOORPLANE SHAKING PARALLEL;bMOVEMENT-WALLPLANE ARM CIRCLE SMALL SINGLE;eMEDIUM SINGLE
eSMALL DOUBLE;eMEDIUM DOUBLE;bMOVEMENT-FLOORPLANE ARM CIRCLE HITTING WALL SMALL SINGLE
gMEDIUM SINGLE;gLARGE SINGLE;gSMALL DOUBLE;gMEDIUM DOUBLE;gLARGE DOUBLE
bMOVEMENT-WALLPLANE WRIST CIRCLE FRONT SINGLE;fDOUBLE
bMOVEMENT-FLOORPLANE WRIST CIRCLE HITTING WALL SINGLE;gDOUBLE
bMOVEMENT-WALLPLANE FINGER CIRCLES SINGLE;eDOUBLE
bMOVEMENT-FLOORPLANE FINGER CIRCLES HITTING WALL SINGLE;gDOUBLE;bDYNAMIC ARROWHEAD SMALL;dLARGE
cFAST;cSLOW;cTENSE;cRELAXED;cSIMULTANEOUS;dALTERNATING;cEVERY OTHER TIME;cGRADUAL;bHEAD;cRIM
cMOVEMENT-WALLPLANE STRAIGHT;dTILT;cMOVEMENT-FLOORPLANE STRAIGHT;cMOVEMENT-WALLPLANE CURVE
cMOVEMENT-FLOORPLANE CURVE;cMOVEMENT CIRCLE;bFACE DIRECTION POSITION NOSE FORWARD TILTING
fUP OR DOWN;iTILTING;bEYEBROWS STRAIGHT UP;dNEUTRAL;dDOWN;bDREAMY EYEBROWS NEUTRAL DOWN
dDOWN NEUTRAL;dUP NEUTRAL;dNEUTRAL UP;bFOREHEAD NEUTRAL;cCONTACT;cWRINKLED;bEYES OPEN;cSQUEEZED
cCLOSED;bEYE BLINK SINGLE;dMULTIPLE;bEYES HALF OPEN;cWIDE OPEN;cHALF CLOSED;cWIDENING MOVEMENT
bEYE WINK;bEYELASHES UP;cDOWN;cFLUTTERING;bEYEGAZE-WALLPLANE STRAIGHT;dDOUBLE;dALTERNATING
bEYEGAZE-FLOORPLANE STRAIGHT;dDOUBLE;dALTERNATING;bEYEGAZE-WALLPLANE CURVED
bEYEGAZE-FLOORPLANE CURVED;bEYEGAZE-WALLPLANE CIRCLING;bCHEEKS PUFFED;cNEUTRAL;cSUCKED
bTENSE CHEEKS HIGH;dMIDDLE;dLOW;bEARS;bNOSE NEUTRAL;cCONTACT;cWRINKLES;cWIGGLES;bAIR BLOWING OUT
cSUCKING IN;cBLOW SMALL ROTATIONS;cSUCK SMALL ROTATIONS;bBREATH INHALE;cEXHALE
bMOUTH CLOSED NEUTRAL;dFORWARD;dCONTACT;cSMILE;dWRINKLED;dOPEN;cFROWN;dWRINKLED;dOPEN;cOPEN CIRCLE
dFORWARD;dWRINKLED;dOVAL;eWRINKLED;eYAWN;dRECTANGLE;eWRINKLED;eYAWN;cKISS;dFORWARD;dWRINKLED
cTENSE;dFORWARD;dSUCKED;bLIPS PRESSED TOGETHER;bLIP LOWER OVER UPPER;cUPPER OVER LOWER
bMOUTH CORNERS;cWRINKLES SINGLE;dDOUBLE;bTONGUE STICKING OUT FAR;cLICKING LIPS;cTIP BETWEEN LIPS
dTOUCHING INSIDE MOUTH;cINSIDE MOUTH RELAXED;cMOVES AGAINST CHEEK;cCENTRE STICKING OUT
dINSIDE MOUTH;bTEETH;cMOVEMENT;cON TONGUE;eMOVEMENT;dLIPS;eMOVEMENT;cBITE LIPS
bMOVEMENT-WALLPLANE JAW;bMOVEMENT-FLOORPLANE JAW;bNECK;bHAIR;bEXCITEMENT;bSHOULDER HIP SPINE
dPOSITIONS;bWALLPLANE SHOULDER HIP MOVE;bFLOORPLANE SHOULDER HIP MOVE;bSHOULDER TILTING FROM WAIST
bTORSO-WALLPLANE STRAIGHT STRETCH;cCURVED BEND;bTORSO-FLOORPLANE TWISTING
bUPPER BODY TILTING FROM HIP JOINTS;bLIMB COMBINATION;cLENGTH-1;cLENGTH-2;cLENGTH-3;cLENGTH-4
cLENGTH-5;cLENGTH-6;cLENGTH-7;bFINGER;bLOCATION-WALLPLANE SPACE;bLOCATION-FLOORPLANE SPACE
bLOCATION HEIGHT;cWIDTH;cDEPTH;cHEAD NECK;cTORSO;cLIMBS DIGITS;bCOMMA;bFULL STOP;bSEMICOLON;bCOLON
bPARENTHESIS;@1DA9B;bFILL MODIFIER-2;cMODIFIER-3;cMODIFIER-4;cMODIFIER-5;cMODIFIER-6;@1DAA1
bROTATION MODIFIER-2;cMODIFIER-3;cMODIFIER-4;cMODIFIER-5;cMODIFIER-6;cMODIFIER-7;cMODIFIER-8
cMODIFIER-9;cMODIFIER-10;cMODIFIER-11;cMODIFIER-12;cMODIFIER-13;cMODIFIER-14;cMODIFIER-15
cMODIFIER-16;@1DF00;aLATIN SMALL LETTER FENG DIGRAPH WITH TRILL;dREVERSED SCRIPT G
bLETTER SMALL CAPITAL TURNED G;bSMALL LETTER REVERSED K;bLETTER SMALL CAPITAL L WITH BELT
bSMALL LETTER LEZH WITH RETROFLEX HOOK;dTURNED Y WITH BELT;dREVERSED ENG
dTURNED R WITH LONG LEG AND RETROFLEX HOOK;dT WITH HOOK AND RETROFLEX HOOK
bLETTER RETROFLEX CLICK WITH RETROFLEX HOOK;bSMALL LETTER ESH WITH DOUBLE BAR;hAND CURL
dTURNED T WITH CURL;bLETTER INVERTED GLOTTAL STOP WITH CURL;cSTRETCHED C WITH CURL
cSMALL CAPITAL TURNED K;bSMALL LETTER L WITH FISHHOOK;dDEZH DIGRAPH WITH PALATAL HOOK
dL WITH BELT AND PALATAL HOOK;dENG WITH PALATAL HOOK;dTURNED R WITH PALATAL HOOK
dR WITH FISHHOOK AND PALATAL HOOK;dTESH DIGRAPH WITH PALATAL HOOK;dEZH WITH PALATAL HOOK
dDEZH DIGRAPH WITH RETROFLEX HOOK;dI WITH STROKE AND RETROFLEX HOOK;dO WITH RETROFLEX HOOK
dTESH DIGRAPH WITH RETROFLEX HOOK;dC WITH RETROFLEX HOOK;dS WITH CURL;@1E000
aCOMBINING GLAGOLITIC LETTER AZU;dBUKY;dVEDE;dGLAGOLI;dDOBRO;dYESTU;dZHIVETE;@1E008;dZEMLJA;dIZHE
dINITIAL IZHE;dI;dDJERVI;dKAKO;dLJUDIJE;dMYSLITE;dNASHI;dONU;dPOKOJI;dRITSI;dSLOVO;dTVRIDO;dUKU
dFRITU;dHERU;@1E01B;dSHTA;dTSI;dCHRIVI;dSHA;dYERU;dYERI;dYATI;@1E023;dYU;dSMALL YUS;@1E026;dYO
dIOTATED SMALL YUS;dBIG YUS;dIOTATED BIG YUS;dFITA;@1E100;aNYIAKENG PUACHUE HMONG LETTER MA;eTSA
eNTA;eTA;eHA;eNA;eXA;eNKA;eCA;eLA;eSA;eZA;eNCA;eNTSA;eKA;eDA;eNYA;eNRA;eVA;eNTXA;eTXA;eFA;eRA;eQA
eYA;eNQA;ePA;eXYA;eNPA;eDLA;eNPLA;eHAH;eMLA;ePLA;eGA;eRRA;eA;eAA;eI;eU;eO;eOO;eE;eEE;eW;@1E130
dTONE-B;dTONE-M;dTONE-J;dTONE-V;dTONE-S;dTONE-G;dTONE-D;dSIGN FOR PERSON;fTHING;fLOCATION;fANIMAL
fINVERTEBRATE;eXW XW;dSYLLABLE LENGTHENER;@1E140;dDIGIT ZERO;eONE;eTWO;eTHREE;eFOUR;eFIVE;eSIX
eSEVEN;eEIGHT;eNINE;@1E14E;dLOGOGRAM NYAJ;dCIRCLED CA;@1E290;aTOTO LETTER PA;cBA;cTA;cDA;cKA;cGA
cMA;cNA;cNGA;cSA;cCHA;cYA;cWA;cJA;cHA;cRA;cLA;cI;cBREATHY I;cIU;cBREATHY IU;cU;cE;cBREATHY E;cEO
cBREATHY EO;cO;cAE;cBREATHY AE;cA;bSIGN RISING TONE;@1E2C0;aWANCHO LETTER AA;cA;cBA;cCA;cDA;cGA
cYA;cPHA;cLA;cNA;cPA;cTA;cTHA;cFA;cSA;cSHA;cJA;cZA;cWA;cVA;cKA;cO;cAU;cRA;cMA;cKHA;cHA;cE;cI;cNGA
cU;cLLHA;cTSA;cTRA;cONG;cAANG;cANG;cING;cON;cEN;cAAN;cNYA;cUEN;cYIH;bTONE TUP;cTUPNI;cKOI;cKOINI
bDIGIT ZERO;cONE;cTWO;cTHREE;cFOUR;cFIVE;cSIX;cSEVEN;cEIGHT;cNINE;@1E2FF;bNGUN SIGN;@1E7E0
aETHIOPIC SYLLABLE HHYA;cHHYU;cHHYI;cHHYAA;cHHYEE;cHHYE;cHHYO;@1E7E8;cGURAGE HHWA;cHHWI;cHHWEE
cHHWE;@1E7ED;cGURAGE MWI;dMWEE;@1E7F0;dQWI;dQWEE;dQWE;dBWI;dBWEE;dKWI;dKWEE;dKWE;dGWI;dGWEE;dGWE
dFWI;dFWEE;dPWI;dPWEE;@1E800;aMENDE KIKAKUI SYLLABLE M001 KI;dM002 KA;dM003 KU;dM065 KEE;dM095 KE
dM076 KOO;dM048 KO;dM179 KUA;dM004 WI;dM005 WA;dM006 WU;dM126 WEE;dM118 WE;dM114 WOO;dM045 WO
dM194 WUI;dM143 WEI;dM061 WVI;dM049 WVA;dM139 WVE;dM007 MIN;dM008 MAN;dM009 MUN;dM059 MEN
dM094 MON;dM154 MUAN;dM189 MUEN;dM010 BI;dM011 BA;dM012 BU;dM150 BEE;dM097 BE;dM103 BOO;dM138 BO
dM013 I;dM014 A;dM015 U;dM163 EE;dM100 E;dM165 OO;dM147 O;dM137 EI;dM131 IN;dM135 IN;dM195 AN
dM178 EN;dM019 SI;dM020 SA;dM021 SU;dM162 SEE;dM116 SE;dM136 SOO;dM079 SO;dM196 SIA;dM025 LI
dM026 LA;dM027 LU;dM084 LEE;dM073 LE;dM054 LOO;dM153 LO;dM110 LONG LE;dM016 DI;dM017 DA;dM018 DU
dM089 DEE;dM180 DOO;dM181 DO;dM022 TI;dM023 TA;dM024 TU;dM091 TEE;dM055 TE;dM104 TOO;dM069 TO
dM028 JI;dM029 JA;dM030 JU;dM157 JEE;dM113 JE;dM160 JOO;dM063 JO;dM175 LONG JO;dM031 YI;dM032 YA
dM033 YU;dM109 YEE;dM080 YE;dM141 YOO;dM121 YO;dM034 FI;dM035 FA;dM036 FU;dM078 FEE;dM075 FE
dM133 FOO;dM088 FO;dM197 FUA;dM101 FAN;dM037 NIN;dM038 NAN;dM039 NUN;dM117 NEN;dM169 NON;dM176 HI
dM041 HA;dM186 HU;dM040 HEE;dM096 HE;dM042 HOO;dM140 HO;dM083 HEEI;dM128 HOOU;dM053 HIN;dM130 HAN
dM087 HUN;dM052 HEN;dM193 HON;dM046 HUAN;dM090 NGGI;dM043 NGGA;dM082 NGGU;dM115 NGGEE;dM146 NGGE
dM156 NGGOO;dM120 NGGO;dM159 NGGAA;dM127 NGGUA;dM086 LONG NGGE;dM106 LONG NGGOO;dM183 LONG NGGO
dM155 GI;dM111 GA;dM168 GU;dM190 GEE;dM166 GUEI;dM167 GUAN;dM184 NGEN;dM057 NGON;dM177 NGUAN
dM068 PI;dM099 PA;dM050 PU;dM081 PEE;dM051 PE;dM102 POO;dM066 PO;dM145 MBI;dM062 MBA;dM122 MBU
dM047 MBEE;dM188 MBEE;dM072 MBE;dM172 MBOO;dM174 MBO;dM187 MBUU;dM161 LONG MBE;dM105 LONG MBOO
dM142 LONG MBO;dM132 KPI;dM092 KPA;dM074 KPU;dM044 KPEE;dM108 KPE;dM112 KPOO;dM158 KPO;dM124 GBI
dM056 GBA;dM148 GBU;dM093 GBEE;dM107 GBE;dM071 GBOO;dM070 GBO;dM171 RA;dM123 NDI;dM129 NDA
dM125 NDU;dM191 NDEE;dM119 NDE;dM067 NDOO;dM064 NDO;dM152 NJA;dM192 NJU;dM149 NJEE;dM134 NJOO
dM182 VI;dM185 VA;dM151 VU;dM173 VEE;dM085 VE;dM144 VOO;dM077 VO;dM164 NYIN;dM058 NYAN;dM170 NYUN
dM098 NYEN;dM060 NYON;@1E8C7;cDIGIT ONE;dTWO;dTHREE;dFOUR;dFIVE;dSIX;dSEVEN;dEIGHT;dNINE
cCOMBINING NUMBER TEENS;eTENS;eHUNDREDS;eTHOUSANDS;eTEN THOUSANDS;eHUNDRED THOUSANDS;eMILLIONS
@1E900;aADLAM CAPITAL LETTER ALIF;dDAALI;dLAAM;dMIIM;dBA;dSINNYIIYHE;dPE;dBHE;dRA;dE;dFA;dI;dO
dDHA;dYHE;dWAW;dNUN;dKAF;dYA;dU;dJIIM;dCHI;dHA;dQAAF;dGA;dNYA;dTU;dNHA;dVA;dKHA;dGBE;dZAL;dKPO
dSHA;bSMALL LETTER ALIF;dDAALI;dLAAM;dMIIM;dBA;dSINNYIIYHE;dPE;dBHE;dRA;dE;dFA;dI;dO;dDHA;dYHE
dWAW;dNUN;dKAF;dYA;dU;dJIIM;dCHI;dHA;dQAAF;dGA;dNYA;dTU;dNHA;dVA;dKHA;dGBE;dZAL;dKPO;dSHA
bALIF LENGTHENER;bVOWEL LENGTHENER;bGEMINATION MARK;bHAMZA;bCONSONANT MODIFIER
bGEMINATE CONSONANT MODIFIER;bNUKTA;bNASALIZATION MARK;@1E950;bDIGIT ZERO;cONE;cTWO;cTHREE;cFOUR
cFIVE;cSIX;cSEVEN;cEIGHT;cNINE;@1E95E;bINITIAL EXCLAMATION MARK;cQUESTION MARK;@1EC71
aINDIC SIYAQ NUMBER ONE;dTWO;dTHREE;dFOUR;dFIVE;dSIX;dSEVEN;dEIGHT;dNINE;dTEN;dTWENTY;dTHIRTY
dFORTY;dFIFTY;dSIXTY;dSEVENTY;dEIGHTY;dNINETY;dONE HUNDRED;dTWO HUNDRED;dTHREE HUNDRED
dFOUR HUNDRED;dFIVE HUNDRED;dSIX HUNDRED;dSEVEN HUNDRED;dEIGHT HUNDRED;dNINE HUNDRED;dONE THOUSAND
dTWO THOUSAND;dTHREE THOUSAND;dFOUR THOUSAND;dFIVE THOUSAND;dSIX THOUSAND;dSEVEN THOUSAND
dEIGHT THOUSAND;dNINE THOUSAND;dTEN THOUSAND;dTWENTY THOUSAND;dTHIRTY THOUSAND;dFORTY THOUSAND
dFIFTY THOUSAND;dSIXTY THOUSAND;dSEVENTY THOUSAND;dEIGHTY THOUSAND;dNINETY THOUSAND;dLAKH;dLAKHAN
cLAKH MARK;cNUMBER KAROR;dKARORAN;dPREFIXED ONE;eTWO;eTHREE;eFOUR;eFIVE;eSIX;eSEVEN;eEIGHT;eNINE
cPLACEHOLDER;cFRACTION ONE QUARTER;eHALF;dTHREE QUARTERS;cRUPEE MARK;cNUMBER ALTERNATE ONE;eTWO
eTEN THOUSAND;cALTERNATE LAKH MARK;@1ED01;aOTTOMAN SIYAQ NUMBER ONE;dTWO;dTHREE;dFOUR;dFIVE;dSIX
dSEVEN;dEIGHT;dNINE;dTEN;dTWENTY;dTHIRTY;dFORTY;dFIFTY;dSIXTY;dSEVENTY;dEIGHTY;dNINETY
dONE HUNDRED;dTWO HUNDRED;dTHREE HUNDRED;dFOUR HUNDRED;dFIVE HUNDRED;dSIX HUNDRED;dSEVEN HUNDRED
dEIGHT HUNDRED;dNINE HUNDRED;dONE THOUSAND;dTWO THOUSAND;dTHREE THOUSAND;dFOUR THOUSAND
dFIVE THOUSAND;dSIX THOUSAND;dSEVEN THOUSAND;dEIGHT THOUSAND;dNINE THOUSAND;dTEN THOUSAND
dTWENTY THOUSAND;dTHIRTY THOUSAND;dFORTY THOUSAND;dFIFTY THOUSAND;dSIXTY THOUSAND
dSEVENTY THOUSAND;dEIGHTY THOUSAND;dNINETY THOUSAND;cMARRATAN;cALTERNATE NUMBER TWO;eTHREE;eFOUR
eFIVE;eSIX;eSEVEN;eEIGHT;eNINE;eTEN;eFOUR HUNDRED;eSIX HUNDRED;eTWO THOUSAND;eTEN THOUSAND
cFRACTION ONE HALF;eSIXTH;@1EE00;aARABIC MATHEMATICAL ALEF;cBEH;cJEEM;cDAL;@1EE05;cWAW;cZAIN;cHAH
cTAH;cYEH;cKAF;cLAM;cMEEM;cNOON;cSEEN;cAIN;cFEH;cSAD;cQAF;cREH;cSHEEN;cTEH;cTHEH;cKHAH;cTHAL;cDAD
cZAH;cGHAIN;cDOTLESS BEH;dNOON;dFEH;dQAF;@1EE21;cINITIAL BEH;dJEEM;@1EE24;dHEH;@1EE27;dHAH;@1EE29
dYEH;dKAF;dLAM;dMEEM;dNOON;dSEEN;dAIN;dFEH;dSAD;dQAF;@1EE34;dSHEEN;dTEH;dTHEH;dKHAH;@1EE39;dDAD
@1EE3B;dGHAIN;@1EE42;cTAILED JEEM;@1EE47;dHAH;@1EE49;dYEH;@1EE4B;dLAM;@1EE4D;dNOON;dSEEN;dAIN
@1EE51;dSAD;dQAF;@1EE54;dSHEEN;@1EE57;dKHAH;@1EE59;dDAD;@1EE5B;dGHAIN;@1EE5D;dDOTLESS NOON;@1EE5F
eQAF;@1EE61;cSTRETCHED BEH;dJEEM;@1EE64;dHEH;@1EE67;dHAH;dTAH;dYEH;dKAF;@1EE6C;dMEEM;dNOON;dSEEN
dAIN;dFEH;dSAD;dQAF;@1EE74;dSHEEN;dTEH;dTHEH;dKHAH;@1EE79;dDAD;dZAH;dGHAIN;dDOTLESS BEH;@1EE7E
eFEH;@1EE80;cLOOPED ALEF;dBEH;dJEEM;dDAL;dHEH;dWAW;dZAIN;dHAH;dTAH;dYEH;@1EE8B;dLAM;dMEEM;dNOON
dSEEN;dAIN;dFEH;dSAD;dQAF;dREH;dSHEEN;dTEH;dTHEH;dKHAH;dTHAL;dDAD;dZAH;dGHAIN;@1EEA1
cDOUBLE-STRUCK BEH;dJEEM;dDAL;@1EEA5;dWAW;dZAIN;dHAH;dTAH;dYEH;@1EEAB;dLAM;dMEEM;dNOON;dSEEN;dAIN
dFEH;dSAD;dQAF;dREH;dSHEEN;dTEH;dTHEH;dKHAH;dTHAL;dDAD;dZAH;dGHAIN;@1EEF0
cOPERATOR MEEM WITH HAH WITH TATWEEL;dHAH WITH DAL;@1F000;aMAHJONG TILE EAST WIND;cSOUTH WIND
cWEST WIND;cNORTH WIND;cRED DRAGON;cGREEN DRAGON;cWHITE DRAGON;cONE OF CHARACTERS
cTWO OF CHARACTERS;cTHREE OF CHARACTERS;cFOUR OF CHARACTERS;cFIVE OF CHARACTERS;cSIX OF CHARACTERS
cSEVEN OF CHARACTERS;cEIGHT OF CHARACTERS;cNINE OF CHARACTERS;cONE OF BAMBOOS;cTWO OF BAMBOOS
cTHREE OF BAMBOOS;cFOUR OF BAMBOOS;cFIVE OF BAMBOOS;cSIX OF BAMBOOS;cSEVEN OF BAMBOOS
cEIGHT OF BAMBOOS;cNINE OF BAMBOOS;cONE OF CIRCLES;cTWO OF CIRCLES;cTHREE OF CIRCLES
cFOUR OF CIRCLES;cFIVE OF CIRCLES;cSIX OF CIRCLES;cSEVEN OF CIRCLES;cEIGHT OF CIRCLES
cNINE OF CIRCLES;cPLUM;cORCHID;cBAMBOO;cCHRYSANTHEMUM;cSPRING;cSUMMER;cAUTUMN;cWINTER;cJOKER;cBACK
@1F030;aDOMINO TILE HORIZONTAL BACK;cHORIZONTAL-00-00;cHORIZONTAL-00-01;cHORIZONTAL-00-02
cHORIZONTAL-00-03;cHORIZONTAL-00-04;cHORIZONTAL-00-05;cHORIZONTAL-00-06;cHORIZONTAL-01-00
cHORIZONTAL-01-01;cHORIZONTAL-01-02;cHORIZONTAL-01-03;cHORIZONTAL-01-04;cHORIZONTAL-01-05
cHORIZONTAL-01-06;cHORIZONTAL-02-00;cHORIZONTAL-02-01;cHORIZONTAL-02-02;cHORIZONTAL-02-03
cHORIZONTAL-02-04;cHORIZONTAL-02-05;cHORIZONTAL-02-06;cHORIZONTAL-03-00;cHORIZONTAL-03-01
cHORIZONTAL-03-02;cHORIZONTAL-03-03;cHORIZONTAL-03-04;cHORIZONTAL-03-05;cHORIZONTAL-03-06
cHORIZONTAL-04-00;cHORIZONTAL-04-01;cHORIZONTAL-04-02;cHORIZONTAL-04-03;cHORIZONTAL-04-04
cHORIZONTAL-04-05;cHORIZONTAL-04-06;cHORIZONTAL-05-00;cHORIZONTAL-05-01;cHORIZONTAL-05-02
cHORIZONTAL-05-03;cHORIZONTAL-05-04;cHORIZONTAL-05-05;cHORIZONTAL-05-06;cHORIZONTAL-06-00
cHORIZONTAL-06-01;cHORIZONTAL-06-02;cHORIZONTAL-06-03;cHORIZONTAL-06-04;cHORIZONTAL-06-05
cHORIZONTAL-06-06;cVERTICAL BACK;cVERTICAL-00-00;cVERTICAL-00-01;cVERTICAL-00-02;cVERTICAL-00-03
cVERTICAL-00-04;cVERTICAL-00-05;cVERTICAL-00-06;cVERTICAL-01-00;cVERTICAL-01-01;cVERTICAL-01-02
cVERTICAL-01-03;cVERTICAL-01-04;cVERTICAL-01-05;cVERTICAL-01-06;cVERTICAL-02-00;cVERTICAL-02-01
cVERTICAL-02-02;cVERTICAL-02-03;cVERTICAL-02-04;cVERTICAL-02-05;cVERTICAL-02-06;cVERTICAL-03-00
cVERTICAL-03-01;cVERTICAL-03-02;cVERTICAL-03-03;cVERTICAL-03-04;cVERTICAL-03-05;cVERTICAL-03-06
cVERTICAL-04-00;cVERTICAL-04-01;cVERTICAL-04-02;cVERTICAL-04-03;cVERTICAL-04-04;cVERTICAL-04-05
cVERTICAL-04-06;cVERTICAL-05-00;cVERTICAL-05-01;cVERTICAL-05-02;cVERTICAL-05-03;cVERTICAL-05-04
cVERTICAL-05-05;cVERTICAL-05-06;cVERTICAL-06-00;cVERTICAL-06-01;cVERTICAL-06-02;cVERTICAL-06-03
cVERTICAL-06-04;cVERTICAL-06-05;cVERTICAL-06-06;@1F0A0;aPLAYING CARD BACK;cACE OF SPADES
cTWO OF SPADES;cTHREE OF SPADES;cFOUR OF SPADES;cFIVE OF SPADES;cSIX OF SPADES;cSEVEN OF SPADES
cEIGHT OF SPADES;cNINE OF SPADES;cTEN OF SPADES;cJACK OF SPADES;cKNIGHT OF SPADES;cQUEEN OF SPADES
cKING OF SPADES;@1F0B1;cACE OF HEARTS;cTWO OF HEARTS;cTHREE OF HEARTS;cFOUR OF HEARTS
cFIVE OF HEARTS;cSIX OF HEARTS;cSEVEN OF HEARTS;cEIGHT OF HEARTS;cNINE OF HEARTS;cTEN OF HEARTS
cJACK OF HEARTS;cKNIGHT OF HEARTS;cQUEEN OF HEARTS;cKING OF HEARTS;cRED JOKER;@1F0C1
cACE OF DIAMONDS;cTWO OF DIAMONDS;cTHREE OF DIAMONDS;cFOUR OF DIAMONDS;cFIVE OF DIAMONDS
cSIX OF DIAMONDS;cSEVEN OF DIAMONDS;cEIGHT OF DIAMONDS;cNINE OF DIAMONDS;cTEN OF DIAMONDS
cJACK OF DIAMONDS;cKNIGHT OF DIAMONDS;cQUEEN OF DIAMONDS;cKING OF DIAMONDS;cBLACK JOKER;@1F0D1
cACE OF CLUBS;cTWO OF CLUBS;cTHREE OF CLUBS;cFOUR OF CLUBS;cFIVE OF CLUBS;cSIX OF CLUBS
cSEVEN OF CLUBS;cEIGHT OF CLUBS;cNINE OF CLUBS;cTEN OF CLUBS;cJACK OF CLUBS;cKNIGHT OF CLUBS
cQUEEN OF CLUBS;cKING OF CLUBS;cWHITE JOKER;cFOOL;cTRUMP-1;cTRUMP-2;cTRUMP-3;cTRUMP-4;cTRUMP-5
cTRUMP-6;cTRUMP-7;cTRUMP-8;cTRUMP-9;cTRUMP-10;cTRUMP-11;cTRUMP-12;cTRUMP-13;cTRUMP-14;cTRUMP-15
cTRUMP-16;cTRUMP-17;cTRUMP-18;cTRUMP-19;cTRUMP-20;cTRUMP-21;@1F100;aDIGIT ZERO FULL STOP;cCOMMA
bONE COMMA;bTWO COMMA;bTHREE COMMA;bFOUR COMMA;bFIVE COMMA;bSIX COMMA;bSEVEN COMMA;bEIGHT COMMA
bNINE COMMA;aDINGBAT CIRCLED SANS-SERIF DIGIT ZERO;bNEGATIVE CIRCLED SANS-SERIF DIGIT ZERO
aCIRCLED ZERO WITH SLASH;bANTICLOCKWISE ARROW;bDOLLAR SIGN WITH OVERLAID BACKSLASH
aPARENTHESIZED LATIN CAPITAL LETTER A;eB;eC;eD;eE;eF;eG;eH;eI;eJ;eK;eL;eM;eN;eO;eP;eQ;eR;eS;eT;eU
eV;eW;eX;eY;eZ;aTORTOISE SHELL BRACKETED LATIN CAPITAL LETTER S
aCIRCLED ITALIC LATIN CAPITAL LETTER C;fR;bCD;bWZ;aCOPYLEFT SYMBOL;aSQUARED LATIN CAPITAL LETTER A
eB;eC;eD;eE;eF;eG;eH;eI;eJ;eK;eL;eM;eN;eO;eP;eQ;eR;eS;eT;eU;eV;eW;eX;eY;eZ;bHV;bMV;bSD;bSS;bPPV
bWC;aNEGATIVE CIRCLED LATIN CAPITAL LETTER A;fB;fC;fD;fE;fF;fG;fH;fI;fJ;fK;fL;fM;fN;fO;fP;fQ;fR;fS
fT;fU;fV;fW;fX;fY;fZ;aRAISED MC SIGN;bMD SIGN;bMR SIGN;aCIRCLED CC;bC WITH OVERLAID BACKSLASH
bHUMAN FIGURE;aNEGATIVE SQUARED LATIN CAPITAL LETTER A;fB;fC;fD;fE;fF;fG;fH;fI;fJ;fK;fL;fM;fN;fO
fP;fQ;fR;fS;fT;fU;fV;fW;fX;fY;fZ;aCROSSED NEGATIVE SQUARED LATIN CAPITAL LETTER P
aNEGATIVE SQUARED IC;cPA;cSA;cAB;cWC;aSQUARE DJ;aSQUARED CL;bCOOL;bFREE;bID;bNEW;bNG;bOK;bSOS
bUP WITH EXCLAMATION MARK;bVS;bTHREE D;bSECOND SCREEN;bTWO K;bFOUR K;bEIGHT K;bFIVE POINT ONE
bSEVEN POINT ONE;bTWENTY-TWO POINT TWO;bSIXTY P;bONE HUNDRED TWENTY P;bLATIN SMALL LETTER D;bHC
bHDR;bHI-RES;bLOSSLESS;bSHV;bUHD;bVOD;aMASK WORK SYMBOL;@1F1E6;aREGIONAL INDICATOR SYMBOL LETTER A
eB;eC;eD;eE;eF;eG;eH;eI;eJ;eK;eL;eM;eN;eO;eP;eQ;eR;eS;eT;eU;eV;eW;eX;eY;eZ;aSQUARE HIRAGANA HOKA
aSQUARED KATAKANA KOKO;cSA;@1F210;bCJK UNIFIED IDEOGRAPH-624B;dIDEOGRAPH-5B57;dIDEOGRAPH-53CC
bKATAKANA DE;bCJK UNIFIED IDEOGRAPH-4E8C;dIDEOGRAPH-591A;dIDEOGRAPH-89E3;dIDEOGRAPH-5929
dIDEOGRAPH-4EA4;dIDEOGRAPH-6620;dIDEOGRAPH-7121;dIDEOGRAPH-6599;dIDEOGRAPH-524D;dIDEOGRAPH-5F8C
dIDEOGRAPH-518D;dIDEOGRAPH-65B0;dIDEOGRAPH-521D;dIDEOGRAPH-7D42;dIDEOGRAPH-751F;dIDEOGRAPH-8CA9
dIDEOGRAPH-58F0;dIDEOGRAPH-5439;dIDEOGRAPH-6F14;dIDEOGRAPH-6295;dIDEOGRAPH-6355;dIDEOGRAPH-4E00
dIDEOGRAPH-4E09;dIDEOGRAPH-904A;dIDEOGRAPH-5DE6;dIDEOGRAPH-4E2D;dIDEOGRAPH-53F3;dIDEOGRAPH-6307
dIDEOGRAPH-8D70;dIDEOGRAPH-6253;dIDEOGRAPH-7981;dIDEOGRAPH-7A7A;dIDEOGRAPH-5408;dIDEOGRAPH-6E80
dIDEOGRAPH-6709;dIDEOGRAPH-6708;dIDEOGRAPH-7533;dIDEOGRAPH-5272;dIDEOGRAPH-55B6;dIDEOGRAPH-914D
@1F240;aTORTOISE SHELL BRACKETED CJK UNIFIED IDEOGRAPH-672C;fIDEOGRAPH-4E09;fIDEOGRAPH-4E8C
fIDEOGRAPH-5B89;fIDEOGRAPH-70B9;fIDEOGRAPH-6253;fIDEOGRAPH-76D7;fIDEOGRAPH-52DD;fIDEOGRAPH-6557
@1F250;aCIRCLED IDEOGRAPH ADVANTAGE;cACCEPT;@1F260;aROUNDED SYMBOL FOR FU;dLU;dSHOU;dXI;dSHUANGXI
dCAI;@1F300;aCYCLONE;aFOGGY;aCLOSED UMBRELLA;aNIGHT WITH STARS;aSUNRISE OVER MOUNTAINS;aSUNRISE
aCITYSCAPE AT DUSK;aSUNSET OVER BUILDINGS;aRAINBOW;aBRIDGE AT NIGHT;aWATER WAVE;aVOLCANO
aMILKY WAY;aEARTH GLOBE EUROPE-AFRICA;cAMERICAS;cASIA-AUSTRALIA;aGLOBE WITH MERIDIANS
aNEW MOON SYMBOL;aWAXING CRESCENT MOON SYMBOL;aFIRST QUARTER MOON SYMBOL
aWAXING GIBBOUS MOON SYMBOL;aFULL MOON SYMBOL;aWANING GIBBOUS MOON SYMBOL
aLAST QUARTER MOON SYMBOL;aWANING CRESCENT MOON SYMBOL;aCRESCENT MOON;aNEW MOON WITH FACE
aFIRST QUARTER MOON WITH FACE;aLAST QUARTER MOON WITH FACE;aFULL MOON WITH FACE;aSUN WITH FACE
aGLOWING STAR;aSHOOTING STAR;aTHERMOMETER;aBLACK DROPLET;aWHITE SUN;cWITH SMALL CLOUD
cBEHIND CLOUD;eWITH RAIN;aCLOUD WITH RAIN;cSNOW;cLIGHTNING;cTORNADO;aFOG;aWIND BLOWING FACE
aHOT DOG;aTACO;aBURRITO;aCHESTNUT;aSEEDLING;aEVERGREEN TREE;aDECIDUOUS TREE;aPALM TREE;aCACTUS
aHOT PEPPER;aTULIP;aCHERRY BLOSSOM;aROSE;aHIBISCUS;aSUNFLOWER;aBLOSSOM;aEAR OF MAIZE;cRICE;aHERB
aFOUR LEAF CLOVER;aMAPLE LEAF;aFALLEN LEAF;aLEAF FLUTTERING IN WIND;aMUSHROOM;aTOMATO;aAUBERGINE
aGRAPES;aMELON;aWATERMELON;aTANGERINE;aLEMON;aBANANA;aPINEAPPLE;aRED APPLE;aGREEN APPLE;aPEAR
aPEACH;aCHERRIES;aSTRAWBERRY;aHAMBURGER;aSLICE OF PIZZA;aMEAT ON BONE;aPOULTRY LEG;aRICE CRACKER
bBALL;aCOOKED RICE;aCURRY AND RICE;aSTEAMING BOWL;aSPAGHETTI;aBREAD;aFRENCH FRIES
aROASTED SWEET POTATO;aDANGO;aODEN;aSUSHI;aFRIED SHRIMP;aFISH CAKE WITH SWIRL DESIGN
aSOFT ICE CREAM;aSHAVED ICE;aICE CREAM;aDOUGHNUT;aCOOKIE;aCHOCOLATE BAR;aCANDY;aLOLLIPOP;aCUSTARD
aHONEY POT;aSHORTCAKE;aBENTO BOX;aPOT OF FOOD;aCOOKING;aFORK AND KNIFE;aTEACUP WITHOUT HANDLE
aSAKE BOTTLE AND CUP;aWINE GLASS;aCOCKTAIL GLASS;aTROPICAL DRINK;aBEER MUG;aCLINKING BEER MUGS
aBABY BOTTLE;aFORK AND KNIFE WITH PLATE;aBOTTLE WITH POPPING CORK;aPOPCORN;aRIBBON
aWRAPPED PRESENT;aBIRTHDAY CAKE;aJACK-O-LANTERN;aCHRISTMAS TREE;aFATHER CHRISTMAS;aFIREWORKS
aFIREWORK SPARKLER;aBALLOON;aPARTY POPPER;aCONFETTI BALL;aTANABATA TREE;aCROSSED FLAGS
aPINE DECORATION;aJAPANESE DOLLS;aCARP STREAMER;aWIND CHIME;aMOON VIEWING CEREMONY;aSCHOOL SATCHEL
aGRADUATION CAP;aHEART WITH TIP ON THE LEFT;aBOUQUET OF FLOWERS;aMILITARY MEDAL;aREMINDER RIBBON
aMUSICAL KEYBOARD WITH JACKS;aSTUDIO MICROPHONE;aLEVEL SLIDER;aCONTROL KNOBS
aBEAMED ASCENDING MUSICAL NOTES;bDESCENDING MUSICAL NOTES;aFILM FRAMES;aADMISSION TICKETS
aCAROUSEL HORSE;aFERRIS WHEEL;aROLLER COASTER;aFISHING POLE AND FISH;aMICROPHONE;aMOVIE CAMERA
aCINEMA;aHEADPHONE;aARTIST PALETTE;aTOP HAT;aCIRCUS TENT;aTICKET;aCLAPPER BOARD;aPERFORMING ARTS
aVIDEO GAME;aDIRECT HIT;aSLOT MACHINE;aBILLIARDS;aGAME DIE;aBOWLING;aFLOWER PLAYING CARDS
aMUSICAL NOTE;aMULTIPLE MUSICAL NOTES;aSAXOPHONE;aGUITAR;aMUSICAL KEYBOARD;aTRUMPET;aVIOLIN
aMUSICAL SCORE;aRUNNING SHIRT WITH SASH;aTENNIS RACQUET AND BALL;aSKI AND SKI BOOT
aBASKETBALL AND HOOP;aCHEQUERED FLAG;aSNOWBOARDER;aRUNNER;aSURFER;aSPORTS MEDAL;aTROPHY
aHORSE RACING;aAMERICAN FOOTBALL;aRUGBY FOOTBALL;aSWIMMER;aWEIGHT LIFTER;aGOLFER
aRACING MOTORCYCLE;bCAR;aCRICKET BAT AND BALL;aVOLLEYBALL;aFIELD HOCKEY STICK AND BALL
aICE HOCKEY STICK AND PUCK;aTABLE TENNIS PADDLE AND BALL;aSNOW CAPPED MOUNTAIN;aCAMPING
aBEACH WITH UMBRELLA;aBUILDING CONSTRUCTION;aHOUSE BUILDINGS;aCITYSCAPE;aDERELICT HOUSE BUILDING
aCLASSICAL BUILDING;aDESERT;bISLAND;aNATIONAL PARK;aSTADIUM;aHOUSE BUILDING;bWITH GARDEN
aOFFICE BUILDING;aJAPANESE POST OFFICE;aEUROPEAN POST OFFICE;aHOSPITAL;aBANK
aAUTOMATED TELLER MACHINE;aHOTEL;aLOVE HOTEL;aCONVENIENCE STORE;aSCHOOL;aDEPARTMENT STORE;aFACTORY
aIZAKAYA LANTERN;aJAPANESE CASTLE;aEUROPEAN CASTLE;aWHITE PENNANT;aBLACK PENNANT
aWAVING WHITE FLAG;bBLACK FLAG;aROSETTE;aBLACK ROSETTE;aLABEL;aBADMINTON RACQUET AND SHUTTLECOCK
aBOW AND ARROW;aAMPHORA;aEMOJI MODIFIER FITZPATRICK TYPE-1-2;dTYPE-3;dTYPE-4;dTYPE-5;dTYPE-6;aRAT
aMOUSE;aOX;aWATER BUFFALO;aCOW;aTIGER;aLEOPARD;aRABBIT;aCAT;aDRAGON;aCROCODILE;aWHALE;aSNAIL
aSNAKE;aHORSE;aRAM;aGOAT;aSHEEP;aMONKEY;aROOSTER;aCHICKEN;aDOG;aPIG;aBOAR;aELEPHANT;aOCTOPUS
aSPIRAL SHELL;aBUG;aANT;aHONEYBEE;aLADY BEETLE;aFISH;aTROPICAL FISH;aBLOWFISH;aTURTLE
aHATCHING CHICK;aBABY CHICK;aFRONT-FACING BABY CHICK;aBIRD;aPENGUIN;aKOALA;aPOODLE
aDROMEDARY CAMEL;aBACTRIAN CAMEL;aDOLPHIN;aMOUSE FACE;aCOW FACE;aTIGER FACE;aRABBIT FACE;aCAT FACE
aDRAGON FACE;aSPOUTING WHALE;aHORSE FACE;aMONKEY FACE;aDOG FACE;aPIG FACE;aFROG FACE;aHAMSTER FACE
aWOLF FACE;aBEAR FACE;aPANDA FACE;aPIG NOSE;aPAW PRINTS;aCHIPMUNK;aEYES;aEYE;aEAR;aNOSE;aMOUTH
aTONGUE;aWHITE UP POINTING BACKHAND INDEX;bDOWN POINTING BACKHAND INDEX
bLEFT POINTING BACKHAND INDEX;bRIGHT POINTING BACKHAND INDEX;aFISTED HAND SIGN;aWAVING HAND SIGN
aOK HAND SIGN;aTHUMBS UP SIGN;bDOWN SIGN;aCLAPPING HANDS SIGN;aOPEN HANDS SIGN;aCROWN;aWOMANS HAT
aEYEGLASSES;aNECKTIE;aT-SHIRT;aJEANS;aDRESS;aKIMONO;aBIKINI;aWOMANS CLOTHES;aPURSE;aHANDBAG;aPOUCH
aMANS SHOE;aATHLETIC SHOE;aHIGH-HEELED SHOE;aWOMANS SANDAL;bBOOTS;aFOOTPRINTS;aBUST IN SILHOUETTE
aBUSTS IN SILHOUETTE;aBOY;aGIRL;aMAN;aWOMAN;aFAMILY;aMAN AND WOMAN HOLDING HANDS
aTWO MEN HOLDING HANDS;bWOMEN HOLDING HANDS;aPOLICE OFFICER;aWOMAN WITH BUNNY EARS
aBRIDE WITH VEIL;aPERSON WITH BLOND HAIR;aMAN WITH GUA PI MAO;cTURBAN;aOLDER MAN;bWOMAN;aBABY
aCONSTRUCTION WORKER;aPRINCESS;aJAPANESE OGRE;bGOBLIN;aGHOST;aBABY ANGEL;aEXTRATERRESTRIAL ALIEN
aALIEN MONSTER;aIMP;aSKULL;aINFORMATION DESK PERSON;aGUARDSMAN;aDANCER;aLIPSTICK;aNAIL POLISH
aFACE MASSAGE;aHAIRCUT;aBARBER POLE;aSYRINGE;aPILL;aKISS MARK;aLOVE LETTER;aRING;aGEM STONE;aKISS
aBOUQUET;aCOUPLE WITH HEART;aWEDDING;aBEATING HEART;aBROKEN HEART;aTWO HEARTS;aSPARKLING HEART
aGROWING HEART;aHEART WITH ARROW;aBLUE HEART;aGREEN HEART;aYELLOW HEART;aPURPLE HEART
aHEART WITH RIBBON;aREVOLVING HEARTS;aHEART DECORATION;aDIAMOND SHAPE WITH A DOT INSIDE
aELECTRIC LIGHT BULB;aANGER SYMBOL;aBOMB;aSLEEPING SYMBOL;aCOLLISION SYMBOL
aSPLASHING SWEAT SYMBOL;aDROPLET;aDASH SYMBOL;aPILE OF POO;aFLEXED BICEPS;aDIZZY SYMBOL
aSPEECH BALLOON;aTHOUGHT BALLOON;aWHITE FLOWER;aHUNDRED POINTS SYMBOL;aMONEY BAG
aCURRENCY EXCHANGE;aHEAVY DOLLAR SIGN;aCREDIT CARD;aBANKNOTE WITH YEN SIGN;cDOLLAR SIGN;cEURO SIGN
cPOUND SIGN;aMONEY WITH WINGS;aCHART WITH UPWARDS TREND AND YEN SIGN;aSEAT;aPERSONAL COMPUTER
aBRIEFCASE;aMINIDISC;aFLOPPY DISK;aOPTICAL DISC;aDVD;aFILE FOLDER;aOPEN FILE FOLDER
aPAGE WITH CURL;bFACING UP;aCALENDAR;aTEAR-OFF CALENDAR;aCARD INDEX;aCHART WITH UPWARDS TREND
cDOWNWARDS TREND;aBAR CHART;aCLIPBOARD;aPUSHPIN;aROUND PUSHPIN;aPAPERCLIP;aSTRAIGHT RULER
aTRIANGULAR RULER;aBOOKMARK TABS;aLEDGER;aNOTEBOOK;bWITH DECORATIVE COVER;aCLOSED BOOK;aOPEN BOOK
aGREEN BOOK;aBLUE BOOK;aORANGE BOOK;aBOOKS;aNAME BADGE;aSCROLL;aMEMO;aTELEPHONE RECEIVER;aPAGER
aFAX MACHINE;aSATELLITE ANTENNA;aPUBLIC ADDRESS LOUDSPEAKER;aCHEERING MEGAPHONE;aOUTBOX TRAY
aINBOX TRAY;aPACKAGE;aE-MAIL SYMBOL;aINCOMING ENVELOPE;aENVELOPE WITH DOWNWARDS ARROW ABOVE
aCLOSED MAILBOX WITH LOWERED FLAG;dRAISED FLAG;aOPEN MAILBOX WITH RAISED FLAG;dLOWERED FLAG
aPOSTBOX;aPOSTAL HORN;aNEWSPAPER;aMOBILE PHONE;cWITH RIGHTWARDS ARROW AT LEFT;aVIBRATION MODE
aMOBILE PHONE OFF;aNO MOBILE PHONES;aANTENNA WITH BARS;aCAMERA;bWITH FLASH;aVIDEO CAMERA
aTELEVISION;aRADIO;aVIDEOCASSETTE;aFILM PROJECTOR;aPORTABLE STEREO;aPRAYER BEADS
aTWISTED RIGHTWARDS ARROWS;aCLOCKWISE RIGHTWARDS AND LEFTWARDS OPEN CIRCLE ARROWS
hWITH CIRCLED ONE OVERLAY;bDOWNWARDS AND UPWARDS OPEN CIRCLE ARROWS
aANTICLOCKWISE DOWNWARDS AND UPWARDS OPEN CIRCLE ARROWS;aLOW BRIGHTNESS SYMBOL
aHIGH BRIGHTNESS SYMBOL;aSPEAKER WITH CANCELLATION STROKE;aSPEAKER;bWITH ONE SOUND WAVE
cTHREE SOUND WAVES;aBATTERY;aELECTRIC PLUG;aLEFT-POINTING MAGNIFYING GLASS
aRIGHT-POINTING MAGNIFYING GLASS;aLOCK WITH INK PEN;aCLOSED LOCK WITH KEY;aKEY;aLOCK;aOPEN LOCK
aBELL;bWITH CANCELLATION STROKE;aBOOKMARK;aLINK SYMBOL;aRADIO BUTTON
aBACK WITH LEFTWARDS ARROW ABOVE;aEND WITH LEFTWARDS ARROW ABOVE
aON WITH EXCLAMATION MARK WITH LEFT RIGHT ARROW ABOVE;aSOON WITH RIGHTWARDS ARROW ABOVE
aTOP WITH UPWARDS ARROW ABOVE;aNO ONE UNDER EIGHTEEN SYMBOL;aKEYCAP TEN
aINPUT SYMBOL FOR LATIN CAPITAL LETTERS;eSMALL LETTERS;dNUMBERS;dSYMBOLS;dLATIN LETTERS;aFIRE
aELECTRIC TORCH;aWRENCH;aHAMMER;aNUT AND BOLT;aHOCHO;aPISTOL;aMICROSCOPE;aTELESCOPE;aCRYSTAL BALL
aSIX POINTED STAR WITH MIDDLE DOT;aJAPANESE SYMBOL FOR BEGINNER;aTRIDENT EMBLEM
aBLACK SQUARE BUTTON;aWHITE SQUARE BUTTON;aLARGE RED CIRCLE;bBLUE CIRCLE;bORANGE DIAMOND
bBLUE DIAMOND;aSMALL ORANGE DIAMOND;bBLUE DIAMOND;aUP-POINTING RED TRIANGLE
aDOWN-POINTING RED TRIANGLE;aUP-POINTING SMALL RED TRIANGLE;aDOWN-POINTING SMALL RED TRIANGLE
aLOWER RIGHT SHADOWED WHITE CIRCLE;aUPPER RIGHT SHADOWED WHITE CIRCLE;aCIRCLED CROSS POMMEE
aCROSS POMMEE WITH HALF-CIRCLE BELOW;bPOMMEE;aNOTCHED LEFT SEMICIRCLE WITH THREE DOTS
bRIGHT SEMICIRCLE WITH THREE DOTS;aSYMBOL FOR MARKS CHAPTER;aWHITE LATIN CROSS;aHEAVY LATIN CROSS
aCELTIC CROSS;aOM SYMBOL;aDOVE OF PEACE;aKAABA;aMOSQUE;aSYNAGOGUE;aMENORAH WITH NINE BRANCHES
aBOWL OF HYGIEIA;aCLOCK FACE ONE OCLOCK;cTWO OCLOCK;cTHREE OCLOCK;cFOUR OCLOCK;cFIVE OCLOCK
cSIX OCLOCK;cSEVEN OCLOCK;cEIGHT OCLOCK;cNINE OCLOCK;cTEN OCLOCK;cELEVEN OCLOCK;cTWELVE OCLOCK
cONE-THIRTY;cTWO-THIRTY;cTHREE-THIRTY;cFOUR-THIRTY;cFIVE-THIRTY;cSIX-THIRTY;cSEVEN-THIRTY
cEIGHT-THIRTY;cNINE-THIRTY;cTEN-THIRTY;cELEVEN-THIRTY;cTWELVE-THIRTY;aRIGHT SPEAKER
cWITH ONE SOUND WAVE;dTHREE SOUND WAVES;aBULLHORN;bWITH SOUND WAVES;aRINGING BELL;aBOOK;aCANDLE
aMANTELPIECE CLOCK;aBLACK SKULL AND CROSSBONES;aNO PIRACY;aHOLE;aMAN IN BUSINESS SUIT LEVITATING
aSLEUTH OR SPY;aDARK SUNGLASSES;aSPIDER;bWEB;aJOYSTICK;aMAN DANCING;aLEFT HAND TELEPHONE RECEIVER
aTELEPHONE RECEIVER WITH PAGE;aRIGHT HAND TELEPHONE RECEIVER;aWHITE TOUCHTONE TELEPHONE
aBLACK TOUCHTONE TELEPHONE;aTELEPHONE ON TOP OF MODEM;aCLAMSHELL MOBILE PHONE;aBACK OF ENVELOPE
aSTAMPED ENVELOPE;aENVELOPE WITH LIGHTNING;aFLYING ENVELOPE;aPEN OVER STAMPED ENVELOPE
aLINKED PAPERCLIPS;aBLACK PUSHPIN;aLOWER LEFT PENCIL;cBALLPOINT PEN;cFOUNTAIN PEN;cPAINTBRUSH
cCRAYON;aLEFT WRITING HAND;aTURNED OK HAND SIGN;aRAISED HAND WITH FINGERS SPLAYED
aREVERSED RAISED HAND WITH FINGERS SPLAYED;bTHUMBS UP SIGN;cDOWN SIGN;bVICTORY HAND
bHAND WITH MIDDLE FINGER EXTENDED;aRAISED HAND WITH PART BETWEEN MIDDLE AND RING FINGERS
aWHITE DOWN POINTING LEFT HAND INDEX;aSIDEWAYS WHITE LEFT POINTING INDEX;cRIGHT POINTING INDEX
bBLACK LEFT POINTING INDEX;cRIGHT POINTING INDEX;aBLACK LEFT POINTING BACKHAND INDEX
bRIGHT POINTING BACKHAND INDEX;aSIDEWAYS WHITE UP POINTING INDEX;cDOWN POINTING INDEX
bBLACK UP POINTING INDEX;cDOWN POINTING INDEX;aBLACK UP POINTING BACKHAND INDEX
bDOWN POINTING BACKHAND INDEX;bHEART;aDESKTOP COMPUTER;aKEYBOARD AND MOUSE
aTHREE NETWORKED COMPUTERS;aPRINTER;aPOCKET CALCULATOR;aBLACK HARD SHELL FLOPPY DISK
aWHITE HARD SHELL FLOPPY DISK;aSOFT SHELL FLOPPY DISK;aTAPE CARTRIDGE;aWIRED KEYBOARD
aONE BUTTON MOUSE;aTWO BUTTON MOUSE;aTHREE BUTTON MOUSE;aTRACKBALL;aOLD PERSONAL COMPUTER
aHARD DISK;aSCREEN;aPRINTER ICON;aFAX ICON;aOPTICAL DISC ICON;aDOCUMENT WITH TEXT;dAND PICTURE
cPICTURE;aFRAME WITH PICTURE;cTILES;cAN X;aBLACK FOLDER;aFOLDER;aOPEN FOLDER;aCARD INDEX DIVIDERS
bFILE BOX;aFILE CABINET;aEMPTY NOTE;cPAGE;cPAD;aNOTE;bPAGE;bPAD;aEMPTY DOCUMENT;bPAGE;bPAGES
aDOCUMENT;aPAGE;aPAGES;aWASTEBASKET;aSPIRAL NOTE PAD;bCALENDAR PAD;aDESKTOP WINDOW;aMINIMIZE
aMAXIMIZE;aOVERLAP;aCLOCKWISE RIGHT AND LEFT SEMICIRCLE ARROWS;aCANCELLATION X
aINCREASE FONT SIZE SYMBOL;aDECREASE FONT SIZE SYMBOL;aCOMPRESSION;aOLD KEY;aROLLED-UP NEWSPAPER
aPAGE WITH CIRCLED TEXT;aSTOCK CHART;aDAGGER KNIFE;aLIPS;aSPEAKING HEAD IN SILHOUETTE
aTHREE RAYS ABOVE;cBELOW;cLEFT;cRIGHT;aLEFT SPEECH BUBBLE;aRIGHT SPEECH BUBBLE;aTWO SPEECH BUBBLES
aTHREE SPEECH BUBBLES;aLEFT THOUGHT BUBBLE;aRIGHT THOUGHT BUBBLE;aLEFT ANGER BUBBLE
aRIGHT ANGER BUBBLE;aMOOD BUBBLE;aLIGHTNING MOOD BUBBLE;bMOOD;aBALLOT BOX WITH BALLOT;bSCRIPT X
bBOX WITH SCRIPT X;bBOLD SCRIPT X;bBOX WITH BOLD SCRIPT X;aLIGHT CHECK MARK
aBALLOT BOX WITH BOLD CHECK;aWORLD MAP;aMOUNT FUJI;aTOKYO TOWER;aSTATUE OF LIBERTY
aSILHOUETTE OF JAPAN;aMOYAI;aGRINNING FACE;cWITH SMILING EYES;aFACE WITH TEARS OF JOY
aSMILING FACE WITH OPEN MOUTH;fAND SMILING EYES;gCOLD SWEAT;gTIGHTLY-CLOSED EYES;dHALO;dHORNS
aWINKING FACE;aSMILING FACE WITH SMILING EYES;aFACE SAVOURING DELICIOUS FOOD;aRELIEVED FACE
aSMILING FACE WITH HEART-SHAPED EYES;dSUNGLASSES;aSMIRKING FACE;aNEUTRAL FACE;aEXPRESSIONLESS FACE
aUNAMUSED FACE;aFACE WITH COLD SWEAT;aPENSIVE FACE;aCONFUSED FACE;aCONFOUNDED FACE;aKISSING FACE
aFACE THROWING A KISS;aKISSING FACE WITH SMILING EYES;dCLOSED EYES;aFACE WITH STUCK-OUT TONGUE
eAND WINKING EYE;fTIGHTLY-CLOSED EYES;aDISAPPOINTED FACE;aWORRIED FACE;aANGRY FACE;aPOUTING FACE
aCRYING FACE;aPERSEVERING FACE;aFACE WITH LOOK OF TRIUMPH;aDISAPPOINTED BUT RELIEVED FACE
aFROWNING FACE WITH OPEN MOUTH;aANGUISHED FACE;aFEARFUL FACE;aWEARY FACE;aSLEEPY FACE;aTIRED FACE
aGRIMACING FACE;aLOUDLY CRYING FACE;aFACE WITH OPEN MOUTH;aHUSHED FACE
aFACE WITH OPEN MOUTH AND COLD SWEAT;bSCREAMING IN FEAR;aASTONISHED FACE;aFLUSHED FACE
aSLEEPING FACE;aDIZZY FACE;aFACE WITHOUT MOUTH;bWITH MEDICAL MASK
aGRINNING CAT FACE WITH SMILING EYES;aCAT FACE WITH TEARS OF JOY;aSMILING CAT FACE WITH OPEN MOUTH
eHEART-SHAPED EYES;aCAT FACE WITH WRY SMILE;aKISSING CAT FACE WITH CLOSED EYES;aPOUTING CAT FACE
aCRYING CAT FACE;aWEARY CAT FACE;aSLIGHTLY FROWNING FACE;bSMILING FACE;aUPSIDE-DOWN FACE
aFACE WITH ROLLING EYES;cNO GOOD GESTURE;cOK GESTURE;aPERSON BOWING DEEPLY;aSEE-NO-EVIL MONKEY
aHEAR-NO-EVIL MONKEY;aSPEAK-NO-EVIL MONKEY;aHAPPY PERSON RAISING ONE HAND
aPERSON RAISING BOTH HANDS IN CELEBRATION;bFROWNING;bWITH POUTING FACE;cFOLDED HANDS
aNORTH WEST POINTING LEAF;aSOUTH WEST POINTING LEAF;aNORTH EAST POINTING LEAF
aSOUTH EAST POINTING LEAF;aTURNED NORTH WEST POINTING LEAF;bSOUTH WEST POINTING LEAF
bNORTH EAST POINTING LEAF;bSOUTH EAST POINTING LEAF;aNORTH WEST POINTING VINE LEAF
aSOUTH WEST POINTING VINE LEAF;aNORTH EAST POINTING VINE LEAF;aSOUTH EAST POINTING VINE LEAF
aHEAVY NORTH WEST POINTING VINE LEAF;bSOUTH WEST POINTING VINE LEAF;bNORTH EAST POINTING VINE LEAF
bSOUTH EAST POINTING VINE LEAF;aNORTH WEST POINTING BUD;aSOUTH WEST POINTING BUD
aNORTH EAST POINTING BUD;aSOUTH EAST POINTING BUD;aHEAVY NORTH WEST POINTING BUD
bSOUTH WEST POINTING BUD;bNORTH EAST POINTING BUD;bSOUTH EAST POINTING BUD
aHOLLOW QUILT SQUARE ORNAMENT;eIN BLACK SQUARE;aSOLID QUILT SQUARE ORNAMENT;eIN BLACK SQUARE
aLEFTWARDS ROCKET;aUPWARDS ROCKET;aRIGHTWARDS ROCKET;aDOWNWARDS ROCKET
aSCRIPT LIGATURE ET ORNAMENT;aHEAVY SCRIPT LIGATURE ET ORNAMENT;aLIGATURE OPEN ET ORNAMENT
aHEAVY LIGATURE OPEN ET ORNAMENT;bAMPERSAND ORNAMENT;aSWASH AMPERSAND ORNAMENT
aSANS-SERIF HEAVY DOUBLE TURNED COMMA QUOTATION MARK ORNAMENT;dCOMMA QUOTATION MARK ORNAMENT
cLOW DOUBLE COMMA QUOTATION MARK ORNAMENT;aHEAVY INTERROBANG ORNAMENT
aSANS-SERIF INTERROBANG ORNAMENT;aHEAVY SANS-SERIF INTERROBANG ORNAMENT;aVERY HEAVY SOLIDUS
cREVERSE SOLIDUS;aCHECKER BOARD;aREVERSE CHECKER BOARD;aROCKET;aHELICOPTER;aSTEAM LOCOMOTIVE
aRAILWAY CAR;aHIGH-SPEED TRAIN;cWITH BULLET NOSE;aTRAIN;aMETRO;aLIGHT RAIL;aSTATION;aTRAM;bCAR
aBUS;aONCOMING BUS;aTROLLEYBUS;aBUS STOP;aMINIBUS;aAMBULANCE;aFIRE ENGINE;aPOLICE CAR
aONCOMING POLICE CAR;aTAXI;aONCOMING TAXI;aAUTOMOBILE;aONCOMING AUTOMOBILE;aRECREATIONAL VEHICLE
aDELIVERY TRUCK;aARTICULATED LORRY;aTRACTOR;aMONORAIL;aMOUNTAIN RAILWAY;aSUSPENSION RAILWAY
aMOUNTAIN CABLEWAY;aAERIAL TRAMWAY;aSHIP;aROWBOAT;aSPEEDBOAT;aHORIZONTAL TRAFFIC LIGHT
aVERTICAL TRAFFIC LIGHT;aCONSTRUCTION SIGN;aPOLICE CARS REVOLVING LIGHT;aTRIANGULAR FLAG ON POST
aDOOR;aNO ENTRY SIGN;aSMOKING SYMBOL;aNO SMOKING SYMBOL;aPUT LITTER IN ITS PLACE SYMBOL
aDO NOT LITTER SYMBOL;aPOTABLE WATER SYMBOL;aNON-POTABLE WATER SYMBOL;aBICYCLE;aNO BICYCLES
aBICYCLIST;aMOUNTAIN BICYCLIST;aPEDESTRIAN;aNO PEDESTRIANS;aCHILDREN CROSSING;aMENS SYMBOL
aWOMENS SYMBOL;aRESTROOM;aBABY SYMBOL;aTOILET;aWATER CLOSET;aSHOWER;aBATH;aBATHTUB
aPASSPORT CONTROL;aCUSTOMS;aBAGGAGE CLAIM;aLEFT LUGGAGE;aTRIANGLE WITH ROUNDED CORNERS
aPROHIBITED SIGN;aCIRCLED INFORMATION SOURCE;aBOYS SYMBOL;aGIRLS SYMBOL;aCOUCH AND LAMP
aSLEEPING ACCOMMODATION;aSHOPPING BAGS;aBELLHOP BELL;aBED;aPLACE OF WORSHIP;aOCTAGONAL SIGN
aSHOPPING TROLLEY;aSTUPA;aPAGODA;aHINDU TEMPLE;aHUT;aELEVATOR;@1F6DD;aPLAYGROUND SLIDE;aWHEEL
aRING BUOY;aHAMMER AND WRENCH;aSHIELD;aOIL DRUM;aMOTORWAY;aRAILWAY TRACK;aMOTOR BOAT
aUP-POINTING MILITARY AIRPLANE;bAIRPLANE;bSMALL AIRPLANE;aSMALL AIRPLANE
aNORTHEAST-POINTING AIRPLANE;aAIRPLANE DEPARTURE;bARRIVING;@1F6F0;aSATELLITE;aONCOMING FIRE ENGINE
aDIESEL LOCOMOTIVE;aPASSENGER SHIP;aSCOOTER;aMOTOR SCOOTER;aCANOE;aSLED;aFLYING SAUCER;aSKATEBOARD
aAUTO RICKSHAW;aPICKUP TRUCK;aROLLER SKATE;@1F700;aALCHEMICAL SYMBOL FOR QUINTESSENCE;dAIR;dFIRE
dEARTH;dWATER;dAQUAFORTIS;dAQUA REGIA;eREGIA-2;eVITAE;eVITAE-2;dVINEGAR;dVINEGAR-2;dVINEGAR-3
dSULFUR;dPHILOSOPHERS SULFUR;dBLACK SULFUR;dMERCURY SUBLIMATE;eSUBLIMATE-2;eSUBLIMATE-3;dCINNABAR
dSALT;dNITRE;dVITRIOL;dVITRIOL-2;dROCK SALT;eSALT-2;dGOLD;dSILVER;dIRON ORE;eORE-2;dCROCUS OF IRON
dREGULUS OF IRON;dCOPPER ORE;dIRON-COPPER ORE;dSUBLIMATE OF COPPER;dCROCUS OF COPPER;fCOPPER-2
dCOPPER ANTIMONIATE;dSALT OF COPPER ANTIMONIATE;dSUBLIMATE OF SALT OF COPPER;dVERDIGRIS;dTIN ORE
dLEAD ORE;dANTIMONY ORE;dSUBLIMATE OF ANTIMONY;dSALT OF ANTIMONY;dSUBLIMATE OF SALT OF ANTIMONY
dVINEGAR OF ANTIMONY;dREGULUS OF ANTIMONY;fANTIMONY-2;dREGULUS;dREGULUS-2;dREGULUS-3;dREGULUS-4
dALKALI;dALKALI-2;dMARCASITE;dSAL-AMMONIAC;dARSENIC;dREALGAR;dREALGAR-2;dAURIPIGMENT;dBISMUTH ORE
dTARTAR;dTARTAR-2;dQUICK LIME;dBORAX;dBORAX-2;dBORAX-3;dALUM;dOIL;dSPIRIT;dTINCTURE;dGUM;dWAX
dPOWDER;dCALX;dTUTTY;dCAPUT MORTUUM;dSCEPTER OF JOVE;dCADUCEUS;dTRIDENT;dSTARRED TRIDENT
dLODESTONE;dSOAP;dURINE;dHORSE DUNG;dASHES;dPOT ASHES;dBRICK;dPOWDERED BRICK;dAMALGAM
dSTRATUM SUPER STRATUM;fSTRATUM-2;dSUBLIMATION;dPRECIPITATE;dDISTILL;dDISSOLVE;dDISSOLVE-2;dPURIFY
dPUTREFACTION;dCRUCIBLE;dCRUCIBLE-2;dCRUCIBLE-3;dCRUCIBLE-4;dCRUCIBLE-5;dALEMBIC;dBATH OF MARY
fVAPOURS;dRETORT;dHOUR;dNIGHT;dDAY-NIGHT;dMONTH;dHALF DRAM;eOUNCE;@1F780
aBLACK LEFT-POINTING ISOSCELES RIGHT TRIANGLE;bUP-POINTING ISOSCELES RIGHT TRIANGLE
bRIGHT-POINTING ISOSCELES RIGHT TRIANGLE;bDOWN-POINTING ISOSCELES RIGHT TRIANGLE
bSLIGHTLY SMALL CIRCLE;aMEDIUM BOLD WHITE CIRCLE;aBOLD WHITE CIRCLE;aHEAVY WHITE CIRCLE
aVERY HEAVY WHITE CIRCLE;aEXTREMELY HEAVY WHITE CIRCLE;aWHITE CIRCLE CONTAINING BLACK SMALL CIRCLE
aROUND TARGET;aBLACK TINY SQUARE;bSLIGHTLY SMALL SQUARE;aLIGHT WHITE SQUARE;aMEDIUM WHITE SQUARE
aBOLD WHITE SQUARE;aHEAVY WHITE SQUARE;aVERY HEAVY WHITE SQUARE;aEXTREMELY HEAVY WHITE SQUARE
aWHITE SQUARE CONTAINING BLACK VERY SMALL SQUARE;eMEDIUM SQUARE;aSQUARE TARGET;aBLACK TINY DIAMOND
bVERY SMALL DIAMOND;bMEDIUM SMALL DIAMOND;aWHITE DIAMOND CONTAINING BLACK VERY SMALL DIAMOND
eMEDIUM DIAMOND;aDIAMOND TARGET;aBLACK TINY LOZENGE;bVERY SMALL LOZENGE;bMEDIUM SMALL LOZENGE
aWHITE LOZENGE CONTAINING BLACK SMALL LOZENGE;aTHIN GREEK CROSS;aLIGHT GREEK CROSS
aMEDIUM GREEK CROSS;aBOLD GREEK CROSS;aVERY BOLD GREEK CROSS;bHEAVY GREEK CROSS
aEXTREMELY HEAVY GREEK CROSS;aTHIN SALTIRE;aLIGHT SALTIRE;aMEDIUM SALTIRE;aBOLD SALTIRE
aHEAVY SALTIRE;aVERY HEAVY SALTIRE;aEXTREMELY HEAVY SALTIRE;aLIGHT FIVE SPOKED ASTERISK
aMEDIUM FIVE SPOKED ASTERISK;aBOLD FIVE SPOKED ASTERISK;aHEAVY FIVE SPOKED ASTERISK
aVERY HEAVY FIVE SPOKED ASTERISK;aEXTREMELY HEAVY FIVE SPOKED ASTERISK;aLIGHT SIX SPOKED ASTERISK
aMEDIUM SIX SPOKED ASTERISK;aBOLD SIX SPOKED ASTERISK;aHEAVY SIX SPOKED ASTERISK
aVERY HEAVY SIX SPOKED ASTERISK;aEXTREMELY HEAVY SIX SPOKED ASTERISK;aLIGHT EIGHT SPOKED ASTERISK
aMEDIUM EIGHT SPOKED ASTERISK;aBOLD EIGHT SPOKED ASTERISK;aHEAVY EIGHT SPOKED ASTERISK
aVERY HEAVY EIGHT SPOKED ASTERISK;aLIGHT THREE POINTED BLACK STAR;aMEDIUM THREE POINTED BLACK STAR
aTHREE POINTED BLACK STAR;aMEDIUM THREE POINTED PINWHEEL STAR;aLIGHT FOUR POINTED BLACK STAR
aMEDIUM FOUR POINTED BLACK STAR;aFOUR POINTED BLACK STAR;aMEDIUM FOUR POINTED PINWHEEL STAR
aREVERSE LIGHT FOUR POINTED PINWHEEL STAR;aLIGHT FIVE POINTED BLACK STAR
aHEAVY FIVE POINTED BLACK STAR;aMEDIUM SIX POINTED BLACK STAR;aHEAVY SIX POINTED BLACK STAR
aSIX POINTED PINWHEEL STAR;aMEDIUM EIGHT POINTED BLACK STAR;aHEAVY EIGHT POINTED BLACK STAR
aVERY HEAVY EIGHT POINTED BLACK STAR;aHEAVY EIGHT POINTED PINWHEEL STAR
aLIGHT TWELVE POINTED BLACK STAR;aHEAVY TWELVE POINTED BLACK STAR;dPINWHEEL STAR;aCIRCLED TRIANGLE
aNEGATIVE CIRCLED TRIANGLE;aCIRCLED SQUARE;aNEGATIVE CIRCLED SQUARE;@1F7E0;aLARGE ORANGE CIRCLE
bYELLOW CIRCLE;bGREEN CIRCLE;bPURPLE CIRCLE;bBROWN CIRCLE;bRED SQUARE;bBLUE SQUARE;bORANGE SQUARE
bYELLOW SQUARE;bGREEN SQUARE;bPURPLE SQUARE;bBROWN SQUARE;@1F7F0;aHEAVY EQUALS SIGN;@1F800
aLEFTWARDS ARROW WITH SMALL TRIANGLE ARROWHEAD;aUPWARDS ARROW WITH SMALL TRIANGLE ARROWHEAD
aRIGHTWARDS ARROW WITH SMALL TRIANGLE ARROWHEAD;aDOWNWARDS ARROW WITH SMALL TRIANGLE ARROWHEAD
aLEFTWARDS ARROW WITH MEDIUM TRIANGLE ARROWHEAD;aUPWARDS ARROW WITH MEDIUM TRIANGLE ARROWHEAD
aRIGHTWARDS ARROW WITH MEDIUM TRIANGLE ARROWHEAD;aDOWNWARDS ARROW WITH MEDIUM TRIANGLE ARROWHEAD
aLEFTWARDS ARROW WITH LARGE TRIANGLE ARROWHEAD;aUPWARDS ARROW WITH LARGE TRIANGLE ARROWHEAD
aRIGHTWARDS ARROW WITH LARGE TRIANGLE ARROWHEAD;aDOWNWARDS ARROW WITH LARGE TRIANGLE ARROWHEAD
@1F810;aLEFTWARDS ARROW WITH SMALL EQUILATERAL ARROWHEAD
aUPWARDS ARROW WITH SMALL EQUILATERAL ARROWHEAD;aRIGHTWARDS ARROW WITH SMALL EQUILATERAL ARROWHEAD
aDOWNWARDS ARROW WITH SMALL EQUILATERAL ARROWHEAD;aLEFTWARDS ARROW WITH EQUILATERAL ARROWHEAD
aUPWARDS ARROW WITH EQUILATERAL ARROWHEAD;aRIGHTWARDS ARROW WITH EQUILATERAL ARROWHEAD
aDOWNWARDS ARROW WITH EQUILATERAL ARROWHEAD;aHEAVY LEFTWARDS ARROW WITH EQUILATERAL ARROWHEAD
bUPWARDS ARROW WITH EQUILATERAL ARROWHEAD;bRIGHTWARDS ARROW WITH EQUILATERAL ARROWHEAD
bDOWNWARDS ARROW WITH EQUILATERAL ARROWHEAD;bLEFTWARDS ARROW WITH LARGE EQUILATERAL ARROWHEAD
bUPWARDS ARROW WITH LARGE EQUILATERAL ARROWHEAD;bRIGHTWARDS ARROW WITH LARGE EQUILATERAL ARROWHEAD
bDOWNWARDS ARROW WITH LARGE EQUILATERAL ARROWHEAD
aLEFTWARDS TRIANGLE-HEADED ARROW WITH NARROW SHAFT
aUPWARDS TRIANGLE-HEADED ARROW WITH NARROW SHAFT
aRIGHTWARDS TRIANGLE-HEADED ARROW WITH NARROW SHAFT
aDOWNWARDS TRIANGLE-HEADED ARROW WITH NARROW SHAFT
aLEFTWARDS TRIANGLE-HEADED ARROW WITH MEDIUM SHAFT
aUPWARDS TRIANGLE-HEADED ARROW WITH MEDIUM SHAFT
aRIGHTWARDS TRIANGLE-HEADED ARROW WITH MEDIUM SHAFT
aDOWNWARDS TRIANGLE-HEADED ARROW WITH MEDIUM SHAFT
aLEFTWARDS TRIANGLE-HEADED ARROW WITH BOLD SHAFT;aUPWARDS TRIANGLE-HEADED ARROW WITH BOLD SHAFT
aRIGHTWARDS TRIANGLE-HEADED ARROW WITH BOLD SHAFT;aDOWNWARDS TRIANGLE-HEADED ARROW WITH BOLD SHAFT
aLEFTWARDS TRIANGLE-HEADED ARROW WITH HEAVY SHAFT;aUPWARDS TRIANGLE-HEADED ARROW WITH HEAVY SHAFT
aRIGHTWARDS TRIANGLE-HEADED ARROW WITH HEAVY SHAFT
aDOWNWARDS TRIANGLE-HEADED ARROW WITH HEAVY SHAFT
aLEFTWARDS TRIANGLE-HEADED ARROW WITH VERY HEAVY SHAFT
aUPWARDS TRIANGLE-HEADED ARROW WITH VERY HEAVY SHAFT
aRIGHTWARDS TRIANGLE-HEADED ARROW WITH VERY HEAVY SHAFT
aDOWNWARDS TRIANGLE-HEADED ARROW WITH VERY HEAVY SHAFT;aLEFTWARDS FINGER-POST ARROW
aUPWARDS FINGER-POST ARROW;aRIGHTWARDS FINGER-POST ARROW;aDOWNWARDS FINGER-POST ARROW
aLEFTWARDS SQUARED ARROW;aUPWARDS SQUARED ARROW;aRIGHTWARDS SQUARED ARROW;aDOWNWARDS SQUARED ARROW
aLEFTWARDS COMPRESSED ARROW;aUPWARDS COMPRESSED ARROW;aRIGHTWARDS COMPRESSED ARROW
aDOWNWARDS COMPRESSED ARROW;aLEFTWARDS HEAVY COMPRESSED ARROW;aUPWARDS HEAVY COMPRESSED ARROW
aRIGHTWARDS HEAVY COMPRESSED ARROW;aDOWNWARDS HEAVY COMPRESSED ARROW;aLEFTWARDS HEAVY ARROW
aUPWARDS HEAVY ARROW;aRIGHTWARDS HEAVY ARROW;aDOWNWARDS HEAVY ARROW;@1F850
aLEFTWARDS SANS-SERIF ARROW;aUPWARDS SANS-SERIF ARROW;aRIGHTWARDS SANS-SERIF ARROW
aDOWNWARDS SANS-SERIF ARROW;aNORTH WEST SANS-SERIF ARROW;bEAST SANS-SERIF ARROW
aSOUTH EAST SANS-SERIF ARROW;bWEST SANS-SERIF ARROW;aLEFT RIGHT SANS-SERIF ARROW
aUP DOWN SANS-SERIF ARROW;@1F860;aWIDE-HEADED LEFTWARDS LIGHT BARB ARROW;bUPWARDS LIGHT BARB ARROW
bRIGHTWARDS LIGHT BARB ARROW;bDOWNWARDS LIGHT BARB ARROW;bNORTH WEST LIGHT BARB ARROW
cEAST LIGHT BARB ARROW;bSOUTH EAST LIGHT BARB ARROW;cWEST LIGHT BARB ARROW;bLEFTWARDS BARB ARROW
bUPWARDS BARB ARROW;bRIGHTWARDS BARB ARROW;bDOWNWARDS BARB ARROW;bNORTH WEST BARB ARROW
cEAST BARB ARROW;bSOUTH EAST BARB ARROW;cWEST BARB ARROW;bLEFTWARDS MEDIUM BARB ARROW
bUPWARDS MEDIUM BARB ARROW;bRIGHTWARDS MEDIUM BARB ARROW;bDOWNWARDS MEDIUM BARB ARROW
bNORTH WEST MEDIUM BARB ARROW;cEAST MEDIUM BARB ARROW;bSOUTH EAST MEDIUM BARB ARROW
cWEST MEDIUM BARB ARROW;bLEFTWARDS HEAVY BARB ARROW;bUPWARDS HEAVY BARB ARROW
bRIGHTWARDS HEAVY BARB ARROW;bDOWNWARDS HEAVY BARB ARROW;bNORTH WEST HEAVY BARB ARROW
cEAST HEAVY BARB ARROW;bSOUTH EAST HEAVY BARB ARROW;cWEST HEAVY BARB ARROW
bLEFTWARDS VERY HEAVY BARB ARROW;bUPWARDS VERY HEAVY BARB ARROW;bRIGHTWARDS VERY HEAVY BARB ARROW
bDOWNWARDS VERY HEAVY BARB ARROW;bNORTH WEST VERY HEAVY BARB ARROW;cEAST VERY HEAVY BARB ARROW
bSOUTH EAST VERY HEAVY BARB ARROW;cWEST VERY HEAVY BARB ARROW;@1F890;aLEFTWARDS TRIANGLE ARROWHEAD
aUPWARDS TRIANGLE ARROWHEAD;aRIGHTWARDS TRIANGLE ARROWHEAD;aDOWNWARDS TRIANGLE ARROWHEAD
aLEFTWARDS WHITE ARROW WITHIN TRIANGLE ARROWHEAD;aUPWARDS WHITE ARROW WITHIN TRIANGLE ARROWHEAD
aRIGHTWARDS WHITE ARROW WITHIN TRIANGLE ARROWHEAD;aDOWNWARDS WHITE ARROW WITHIN TRIANGLE ARROWHEAD
aLEFTWARDS ARROW WITH NOTCHED TAIL;aUPWARDS ARROW WITH NOTCHED TAIL
aRIGHTWARDS ARROW WITH NOTCHED TAIL;aDOWNWARDS ARROW WITH NOTCHED TAIL
aHEAVY ARROW SHAFT WIDTH ONE;eTWO THIRDS;eONE HALF;fTHIRD;aLEFTWARDS BOTTOM-SHADED WHITE ARROW
aRIGHTWARDS BOTTOM SHADED WHITE ARROW;aLEFTWARDS TOP SHADED WHITE ARROW
aRIGHTWARDS TOP SHADED WHITE ARROW;aLEFTWARDS LEFT-SHADED WHITE ARROW
aRIGHTWARDS RIGHT-SHADED WHITE ARROW;aLEFTWARDS RIGHT-SHADED WHITE ARROW
aRIGHTWARDS LEFT-SHADED WHITE ARROW;aLEFTWARDS BACK-TILTED SHADOWED WHITE ARROW
aRIGHTWARDS BACK-TILTED SHADOWED WHITE ARROW;aLEFTWARDS FRONT-TILTED SHADOWED WHITE ARROW
aRIGHTWARDS FRONT-TILTED SHADOWED WHITE ARROW;aWHITE ARROW SHAFT WIDTH ONE;eTWO THIRDS;@1F8B0
aARROW POINTING UPWARDS THEN NORTH WEST;cRIGHTWARDS THEN CURVING SOUTH WEST;@1F900
aCIRCLED CROSS FORMEE WITH FOUR DOTS;eTWO DOTS;cFORMEE;aLEFT HALF CIRCLE WITH FOUR DOTS
eTHREE DOTS;eTWO DOTS;eDOT;cCIRCLE;aDOWNWARD FACING HOOK;cNOTCHED HOOK;cHOOK WITH DOT
cNOTCHED HOOK WITH DOT;aPINCHED FINGERS;aWHITE HEART;aBROWN HEART;aPINCHING HAND
aZIPPER-MOUTH FACE;aMONEY-MOUTH FACE;aFACE WITH THERMOMETER;aNERD FACE;aTHINKING FACE
aFACE WITH HEAD-BANDAGE;aROBOT FACE;aHUGGING FACE;aSIGN OF THE HORNS;aCALL ME HAND
aRAISED BACK OF HAND;aLEFT-FACING FIST;aRIGHT-FACING FIST;aHANDSHAKE
aHAND WITH INDEX AND MIDDLE FINGERS CROSSED;aI LOVE YOU HAND SIGN;aFACE WITH COWBOY HAT
aCLOWN FACE;aNAUSEATED FACE;aROLLING ON THE FLOOR LAUGHING;aDROOLING FACE;aLYING FACE;aFACE PALM
aSNEEZING FACE;aFACE WITH ONE EYEBROW RAISED;aGRINNING FACE WITH STAR EYES
dONE LARGE AND ONE SMALL EYE;aFACE WITH FINGER COVERING CLOSED LIPS
aSERIOUS FACE WITH SYMBOLS COVERING MOUTH;aSMILING FACE WITH SMILING EYES AND HAND COVERING MOUTH
aFACE WITH OPEN MOUTH VOMITING;aSHOCKED FACE WITH EXPLODING HEAD;aPREGNANT WOMAN;aBREAST-FEEDING
aPALMS UP TOGETHER;aSELFIE;aPRINCE;aMAN IN TUXEDO;aMOTHER CHRISTMAS;aSHRUG;aPERSON DOING CARTWHEEL
aJUGGLING;aFENCER;aMODERN PENTATHLON;aWRESTLERS;aWATER POLO;aHANDBALL;aDIVING MASK;aWILTED FLOWER
aDRUM WITH DRUMSTICKS;aCLINKING GLASSES;aTUMBLER GLASS;aSPOON;aGOAL NET;aRIFLE;aFIRST PLACE MEDAL
aSECOND PLACE MEDAL;aTHIRD PLACE MEDAL;aBOXING GLOVE;aMARTIAL ARTS UNIFORM;aCURLING STONE
aLACROSSE STICK AND BALL;aSOFTBALL;aFLYING DISC;aCROISSANT;aAVOCADO;aCUCUMBER;aBACON;aPOTATO
aCARROT;aBAGUETTE BREAD;aGREEN SALAD;aSHALLOW PAN OF FOOD;aSTUFFED FLATBREAD;aEGG;aGLASS OF MILK
aPEANUTS;aKIWIFRUIT;aPANCAKES;aDUMPLING;aFORTUNE COOKIE;aTAKEOUT BOX;aCHOPSTICKS;aBOWL WITH SPOON
aCUP WITH STRAW;aCOCONUT;aBROCCOLI;aPIE;aPRETZEL;aCUT OF MEAT;aSANDWICH;aCANNED FOOD;aLEAFY GREEN
aMANGO;aMOON CAKE;aBAGEL;aSMILING FACE WITH SMILING EYES AND THREE HEARTS;aYAWNING FACE
aSMILING FACE WITH TEAR;aFACE WITH PARTY HORN AND PARTY HAT;cUNEVEN EYES AND WAVY MOUTH
aOVERHEATED FACE;aFREEZING FACE;aNINJA;aDISGUISED FACE;aFACE HOLDING BACK TEARS
bWITH PLEADING EYES;aSARI;aLAB COAT;aGOGGLES;aHIKING BOOT;aFLAT SHOE;aCRAB;aLION FACE;aSCORPION
aTURKEY;aUNICORN FACE;aEAGLE;aDUCK;aBAT;aSHARK;aOWL;aFOX FACE;aBUTTERFLY;aDEER;aGORILLA;aLIZARD
aRHINOCEROS;aSHRIMP;aSQUID;aGIRAFFE FACE;aZEBRA FACE;aHEDGEHOG;aSAUROPOD;aT-REX;aCRICKET;aKANGAROO
aLLAMA;aPEACOCK;aHIPPOPOTAMUS;aPARROT;aRACCOON;aLOBSTER;aMOSQUITO;aMICROBE;aBADGER;aSWAN;aMAMMOTH
aDODO;aSLOTH;aOTTER;aORANGUTAN;aSKUNK;aFLAMINGO;aOYSTER;aBEAVER;aBISON;aSEAL;aGUIDE DOG
aPROBING CANE;aEMOJI COMPONENT RED HAIR;cCURLY HAIR;cBALD;cWHITE HAIR;aBONE;aLEG;aFOOT;aTOOTH
aSUPERHERO;aSUPERVILLAIN;aSAFETY VEST;aEAR WITH HEARING AID;aMOTORIZED WHEELCHAIR
aMANUAL WHEELCHAIR;aMECHANICAL ARM;bLEG;aCHEESE WEDGE;aCUPCAKE;aSALT SHAKER;aBEVERAGE BOX;aGARLIC
aONION;aFALAFEL;aWAFFLE;aBUTTER;aMATE DRINK;aICE CUBE;aBUBBLE TEA;aTROLL;aSTANDING PERSON
aKNEELING PERSON;aDEAF PERSON;aFACE WITH MONOCLE;aADULT;aCHILD;aOLDER ADULT;aBEARDED PERSON
aPERSON WITH HEADSCARF;bIN STEAMY ROOM;bCLIMBING;bIN LOTUS POSITION;aMAGE;aFAIRY;aVAMPIRE
aMERPERSON;aELF;aGENIE;aZOMBIE;aBRAIN;aORANGE HEART;aBILLED CAP;aSCARF;aGLOVES;aCOAT;aSOCKS
aRED GIFT ENVELOPE;aFIRECRACKER;aJIGSAW PUZZLE PIECE;aTEST TUBE;aPETRI DISH;aDNA DOUBLE HELIX
aCOMPASS;aABACUS;aFIRE EXTINGUISHER;aTOOLBOX;aBRICK;aMAGNET;aLUGGAGE;aLOTION BOTTLE
aSPOOL OF THREAD;aBALL OF YARN;aSAFETY PIN;aTEDDY BEAR;aBROOM;aBASKET;aROLL OF PAPER;aBAR OF SOAP
aSPONGE;aRECEIPT;aNAZAR AMULET;aNEUTRAL CHESS KING;cQUEEN;cROOK;cBISHOP;cKNIGHT;cPAWN
aWHITE CHESS KNIGHT ROTATED FORTY-FIVE DEGREES;aBLACK CHESS KNIGHT ROTATED FORTY-FIVE DEGREES
aNEUTRAL CHESS KNIGHT ROTATED FORTY-FIVE DEGREES;aWHITE CHESS KING ROTATED NINETY DEGREES
cQUEEN ROTATED NINETY DEGREES;cROOK ROTATED NINETY DEGREES;cBISHOP ROTATED NINETY DEGREES
cKNIGHT ROTATED NINETY DEGREES;cPAWN ROTATED NINETY DEGREES
aBLACK CHESS KING ROTATED NINETY DEGREES;cQUEEN ROTATED NINETY DEGREES
cROOK ROTATED NINETY DEGREES;cBISHOP ROTATED NINETY DEGREES;cKNIGHT ROTATED NINETY DEGREES
cPAWN ROTATED NINETY DEGREES;aNEUTRAL CHESS KING ROTATED NINETY DEGREES
cQUEEN ROTATED NINETY DEGREES;cROOK ROTATED NINETY DEGREES;cBISHOP ROTATED NINETY DEGREES
cKNIGHT ROTATED NINETY DEGREES;cPAWN ROTATED NINETY DEGREES
aWHITE CHESS KNIGHT ROTATED ONE HUNDRED THIRTY-FIVE DEGREES
aBLACK CHESS KNIGHT ROTATED ONE HUNDRED THIRTY-FIVE DEGREES
aNEUTRAL CHESS KNIGHT ROTATED ONE HUNDRED THIRTY-FIVE DEGREES;aWHITE CHESS TURNED KING;dQUEEN
dROOK;dBISHOP;dKNIGHT;dPAWN;aBLACK CHESS TURNED KING;dQUEEN;dROOK;dBISHOP;dKNIGHT;dPAWN
aNEUTRAL CHESS TURNED KING;dQUEEN;dROOK;dBISHOP;dKNIGHT;dPAWN
aWHITE CHESS KNIGHT ROTATED TWO HUNDRED TWENTY-FIVE DEGREES
aBLACK CHESS KNIGHT ROTATED TWO HUNDRED TWENTY-FIVE DEGREES
aNEUTRAL CHESS KNIGHT ROTATED TWO HUNDRED TWENTY-FIVE DEGREES
aWHITE CHESS KING ROTATED TWO HUNDRED SEVENTY DEGREES;cQUEEN ROTATED TWO HUNDRED SEVENTY DEGREES
cROOK ROTATED TWO HUNDRED SEVENTY DEGREES;cBISHOP ROTATED TWO HUNDRED SEVENTY DEGREES
cKNIGHT ROTATED TWO HUNDRED SEVENTY DEGREES;cPAWN ROTATED TWO HUNDRED SEVENTY DEGREES
aBLACK CHESS KING ROTATED TWO HUNDRED SEVENTY DEGREES;cQUEEN ROTATED TWO HUNDRED SEVENTY DEGREES
cROOK ROTATED TWO HUNDRED SEVENTY DEGREES;cBISHOP ROTATED TWO HUNDRED SEVENTY DEGREES
cKNIGHT ROTATED TWO HUNDRED SEVENTY DEGREES;cPAWN ROTATED TWO HUNDRED SEVENTY DEGREES
aNEUTRAL CHESS KING ROTATED TWO HUNDRED SEVENTY DEGREES;cQUEEN ROTATED TWO HUNDRED SEVENTY DEGREES
cROOK ROTATED TWO HUNDRED SEVENTY DEGREES;cBISHOP ROTATED TWO HUNDRED SEVENTY DEGREES
cKNIGHT ROTATED TWO HUNDRED SEVENTY DEGREES;cPAWN ROTATED TWO HUNDRED SEVENTY DEGREES
aWHITE CHESS KNIGHT ROTATED THREE HUNDRED FIFTEEN DEGREES
aBLACK CHESS KNIGHT ROTATED THREE HUNDRED FIFTEEN DEGREES
aNEUTRAL CHESS KNIGHT ROTATED THREE HUNDRED FIFTEEN DEGREES;aWHITE CHESS EQUIHOPPER
aBLACK CHESS EQUIHOPPER;aNEUTRAL CHESS EQUIHOPPER;aWHITE CHESS EQUIHOPPER ROTATED NINETY DEGREES
aBLACK CHESS EQUIHOPPER ROTATED NINETY DEGREES;aNEUTRAL CHESS EQUIHOPPER ROTATED NINETY DEGREES
aWHITE CHESS KNIGHT-QUEEN;cKNIGHT-ROOK;cKNIGHT-BISHOP;aBLACK CHESS KNIGHT-QUEEN;cKNIGHT-ROOK
cKNIGHT-BISHOP;@1FA60;aXIANGQI RED GENERAL;cMANDARIN;cELEPHANT;cHORSE;cCHARIOT;cCANNON;cSOLDIER
bBLACK GENERAL;cMANDARIN;cELEPHANT;cHORSE;cCHARIOT;cCANNON;cSOLDIER;@1FA70;aBALLET SHOES
aONE-PIECE SWIMSUIT;aBRIEFS;aSHORTS;aTHONG SANDAL;@1FA78;aDROP OF BLOOD;aADHESIVE BANDAGE
aSTETHOSCOPE;aX-RAY;aCRUTCH;@1FA80;aYO-YO;aKITE;aPARACHUTE;aBOOMERANG;aMAGIC WAND;aPINATA
aNESTING DOLLS;@1FA90;aRINGED PLANET;aCHAIR;aRAZOR;aAXE;aDIYA LAMP;aBANJO;aMILITARY HELMET
aACCORDION;aLONG DRUM;aCOIN;aCARPENTRY SAW;aSCREWDRIVER;aLADDER;aHOOK;aMIRROR;aWINDOW;aPLUNGER
aSEWING NEEDLE;aKNOT;aBUCKET;aMOUSE TRAP;aTOOTHBRUSH;aHEADSTONE;aPLACARD;aROCK;aMIRROR BALL
aIDENTIFICATION CARD;aLOW BATTERY;aHAMSA;@1FAB0;aFLY;aWORM;aBEETLE;aCOCKROACH;aPOTTED PLANT;aWOOD
aFEATHER;aLOTUS;aCORAL;aEMPTY NEST;aNEST WITH EGGS;@1FAC0;aANATOMICAL HEART;aLUNGS;aPEOPLE HUGGING
aPREGNANT MAN;bPERSON;aPERSON WITH CROWN;@1FAD0;aBLUEBERRIES;aBELL PEPPER;aOLIVE;aFLATBREAD
aTAMALE;aFONDUE;aTEAPOT;aPOURING LIQUID;aBEANS;aJAR;@1FAE0;aMELTING FACE;aSALUTING FACE
aFACE WITH OPEN EYES AND HAND OVER MOUTH;cPEEKING EYE;cDIAGONAL MOUTH;aDOTTED LINE FACE
aBITING LIP;aBUBBLES;@1FAF0;aHAND WITH INDEX FINGER AND THUMB CROSSED;aRIGHTWARDS HAND
aLEFTWARDS HAND;aPALM DOWN HAND;bUP HAND;aINDEX POINTING AT THE VIEWER;aHEART HANDS;@1FB00
aBLOCK SEXTANT-1;bSEXTANT-2;bSEXTANT-12;bSEXTANT-3;bSEXTANT-13;bSEXTANT-23;bSEXTANT-123;bSEXTANT-4
bSEXTANT-14;bSEXTANT-24;bSEXTANT-124;bSEXTANT-34;bSEXTANT-134;bSEXTANT-234;bSEXTANT-1234
bSEXTANT-5;bSEXTANT-15;bSEXTANT-25;bSEXTANT-125;bSEXTANT-35;bSEXTANT-235;bSEXTANT-1235;bSEXTANT-45
bSEXTANT-145;bSEXTANT-245;bSEXTANT-1245;bSEXTANT-345;bSEXTANT-1345;bSEXTANT-2345;bSEXTANT-12345
bSEXTANT-6;bSEXTANT-16;bSEXTANT-26;bSEXTANT-126;bSEXTANT-36;bSEXTANT-136;bSEXTANT-236
bSEXTANT-1236;bSEXTANT-46;bSEXTANT-146;bSEXTANT-1246;bSEXTANT-346;bSEXTANT-1346;bSEXTANT-2346
bSEXTANT-12346;bSEXTANT-56;bSEXTANT-156;bSEXTANT-256;bSEXTANT-1256;bSEXTANT-356;bSEXTANT-1356
bSEXTANT-2356;bSEXTANT-12356;bSEXTANT-456;bSEXTANT-1456;bSEXTANT-2456;bSEXTANT-12456;bSEXTANT-3456
bSEXTANT-13456;bSEXTANT-23456;aLOWER LEFT BLOCK DIAGONAL LOWER MIDDLE LEFT TO LOWER CENTRE;jRIGHT
eUPPER MIDDLE LEFT TO LOWER CENTRE;jRIGHT;fLEFT TO LOWER CENTRE
bRIGHT BLOCK DIAGONAL UPPER MIDDLE LEFT TO UPPER CENTRE;jRIGHT;eLOWER MIDDLE LEFT TO UPPER CENTRE
jRIGHT;fLEFT TO UPPER CENTRE;fMIDDLE LEFT TO UPPER MIDDLE RIGHT;fCENTRE TO LOWER MIDDLE RIGHT
fLEFT TO LOWER MIDDLE RIGHT;fCENTRE TO UPPER MIDDLE RIGHT;fLEFT TO UPPER MIDDLE RIGHT
fCENTRE TO UPPER RIGHT;bLEFT BLOCK DIAGONAL UPPER CENTRE TO UPPER MIDDLE RIGHT
fLEFT TO UPPER MIDDLE RIGHT;fCENTRE TO LOWER MIDDLE RIGHT;fLEFT TO LOWER MIDDLE RIGHT
fCENTRE TO LOWER RIGHT;fMIDDLE LEFT TO LOWER MIDDLE RIGHT
aUPPER RIGHT BLOCK DIAGONAL LOWER MIDDLE LEFT TO LOWER CENTRE;jRIGHT
eUPPER MIDDLE LEFT TO LOWER CENTRE;jRIGHT;fLEFT TO LOWER CENTRE
bLEFT BLOCK DIAGONAL UPPER MIDDLE LEFT TO UPPER CENTRE;jRIGHT;eLOWER MIDDLE LEFT TO UPPER CENTRE
jRIGHT;fLEFT TO UPPER CENTRE;fMIDDLE LEFT TO UPPER MIDDLE RIGHT;fCENTRE TO LOWER MIDDLE RIGHT
fLEFT TO LOWER MIDDLE RIGHT;fCENTRE TO UPPER MIDDLE RIGHT;fLEFT TO UPPER MIDDLE RIGHT
fCENTRE TO UPPER RIGHT;bRIGHT BLOCK DIAGONAL UPPER CENTRE TO UPPER MIDDLE RIGHT
fLEFT TO UPPER MIDDLE RIGHT;fCENTRE TO LOWER MIDDLE RIGHT;fLEFT TO LOWER MIDDLE RIGHT
fCENTRE TO LOWER RIGHT;fMIDDLE LEFT TO LOWER MIDDLE RIGHT
bAND RIGHT AND LOWER TRIANGULAR THREE QUARTERS BLOCK
aLEFT AND LOWER AND RIGHT TRIANGULAR THREE QUARTERS BLOCK
aUPPER AND LEFT AND LOWER TRIANGULAR THREE QUARTERS BLOCK
aLEFT AND UPPER AND RIGHT TRIANGULAR THREE QUARTERS BLOCK;bTRIANGULAR ONE QUARTER BLOCK
aUPPER TRIANGULAR ONE QUARTER BLOCK;aRIGHT TRIANGULAR ONE QUARTER BLOCK
aLOWER TRIANGULAR ONE QUARTER BLOCK;aVERTICAL ONE EIGHTH BLOCK-2;dBLOCK-3;dBLOCK-4;dBLOCK-5
dBLOCK-6;dBLOCK-7;aHORIZONTAL ONE EIGHTH BLOCK-2;dBLOCK-3;dBLOCK-4;dBLOCK-5;dBLOCK-6;dBLOCK-7
aLEFT AND LOWER ONE EIGHTH BLOCK;cUPPER ONE EIGHTH BLOCK;aRIGHT AND UPPER ONE EIGHTH BLOCK
cLOWER ONE EIGHTH BLOCK;aUPPER AND LOWER ONE EIGHTH BLOCK;aHORIZONTAL ONE EIGHTH BLOCK-1358
aUPPER ONE QUARTER BLOCK;bTHREE EIGHTHS BLOCK;bFIVE EIGHTHS BLOCK;bTHREE QUARTERS BLOCK
bSEVEN EIGHTHS BLOCK;aRIGHT ONE QUARTER BLOCK;bTHREE EIGHTHS BLOCK;bFIVE EIGHTHS BLOCK
bTHREE QUARTERS BLOCK;bSEVEN EIGHTHS BLOCK;aLEFT HALF MEDIUM SHADE;aRIGHT HALF MEDIUM SHADE
aUPPER HALF MEDIUM SHADE;aLOWER HALF MEDIUM SHADE;aINVERSE MEDIUM SHADE
aUPPER HALF BLOCK AND LOWER HALF INVERSE MEDIUM SHADE;cINVERSE MEDIUM SHADE AND LOWER HALF BLOCK
@1FB94;aLEFT HALF INVERSE MEDIUM SHADE AND RIGHT HALF BLOCK;aCHECKER BOARD FILL
aINVERSE CHECKER BOARD FILL;aHEAVY HORIZONTAL FILL;aUPPER LEFT TO LOWER RIGHT FILL
bRIGHT TO LOWER LEFT FILL;bAND LOWER TRIANGULAR HALF BLOCK;aLEFT AND RIGHT TRIANGULAR HALF BLOCK
aUPPER LEFT TRIANGULAR MEDIUM SHADE;bRIGHT TRIANGULAR MEDIUM SHADE
aLOWER RIGHT TRIANGULAR MEDIUM SHADE;bLEFT TRIANGULAR MEDIUM SHADE
aBOX DRAWINGS LIGHT DIAGONAL UPPER CENTRE TO MIDDLE LEFT;iRIGHT;eMIDDLE LEFT TO LOWER CENTRE
fRIGHT TO LOWER CENTRE;eUPPER CENTRE TO MIDDLE LEFT TO LOWER CENTRE;iRIGHT TO LOWER CENTRE
eMIDDLE LEFT TO LOWER CENTRE TO MIDDLE RIGHT;hUPPER CENTRE TO MIDDLE RIGHT
eUPPER CENTRE TO MIDDLE LEFT AND MIDDLE RIGHT TO LOWER CENTRE
iRIGHT AND MIDDLE LEFT TO LOWER CENTRE;jTO LOWER CENTRE TO MIDDLE LEFT
iLEFT TO LOWER CENTRE TO MIDDLE RIGHT;eMIDDLE LEFT TO UPPER CENTRE TO MIDDLE RIGHT TO LOWER CENTRE
fRIGHT TO UPPER CENTRE TO MIDDLE LEFT TO LOWER CENTRE;eDIAMOND;dHORIZONTAL WITH VERTICAL STROKE
aARROWHEAD-SHAPED POINTER;aINVERSE CHECK MARK;aLEFT HALF RUNNING MAN;aRIGHT HALF RUNNING MAN
aINVERSE DOWNWARDS ARROW WITH TIP LEFTWARDS;aLEFTWARDS ARROW AND UPPER AND LOWER ONE EIGHTH BLOCK
aRIGHTWARDS ARROW AND UPPER AND LOWER ONE EIGHTH BLOCK;aDOWNWARDS ARROW AND RIGHT ONE EIGHTH BLOCK
aUPWARDS ARROW AND RIGHT ONE EIGHTH BLOCK;aLEFT HALF FOLDER;aRIGHT HALF FOLDER;aVOIDED GREEK CROSS
aRIGHT OPEN SQUARED DOT;aNEGATIVE DIAGONAL CROSS;cMIDDLE RIGHT TO LOWER CENTRE;cDIAMOND
aWHITE HEAVY SALTIRE WITH ROUNDED CORNERS;aLEFT THIRD WHITE RIGHT POINTING INDEX
aMIDDLE THIRD WHITE RIGHT POINTING INDEX;aRIGHT THIRD WHITE RIGHT POINTING INDEX
aNEGATIVE SQUARED QUESTION MARK;aSTICK FIGURE;cWITH ARMS RAISED;cLEANING LEFT;dRIGHT;cWITH DRESS
aWHITE UP-POINTING CHEVRON;@1FBF0;aSEGMENTED DIGIT ZERO;cONE;cTWO;cTHREE;cFOUR;cFIVE;cSIX;cSEVEN
cEIGHT;cNINE;@2F800;aCJK COMPATIBILITY IDEOGRAPH-2F800;cIDEOGRAPH-2F801;cIDEOGRAPH-2F802
cIDEOGRAPH-2F803;cIDEOGRAPH-2F804;cIDEOGRAPH-2F805;cIDEOGRAPH-2F806;cIDEOGRAPH-2F807
cIDEOGRAPH-2F808;cIDEOGRAPH-2F809;cIDEOGRAPH-2F80A;cIDEOGRAPH-2F80B;cIDEOGRAPH-2F80C
cIDEOGRAPH-2F80D;cIDEOGRAPH-2F80E;cIDEOGRAPH-2F80F;cIDEOGRAPH-2F810;cIDEOGRAPH-2F811
cIDEOGRAPH-2F812;cIDEOGRAPH-2F813;cIDEOGRAPH-2F814;cIDEOGRAPH-2F815;cIDEOGRAPH-2F816
cIDEOGRAPH-2F817;cIDEOGRAPH-2F818;cIDEOGRAPH-2F819;cIDEOGRAPH-2F81A;cIDEOGRAPH-2F81B
cIDEOGRAPH-2F81C;cIDEOGRAPH-2F81D;cIDEOGRAPH-2F81E;cIDEOGRAPH-2F81F;cIDEOGRAPH-2F820
cIDEOGRAPH-2F821;cIDEOGRAPH-2F822;cIDEOGRAPH-2F823;cIDEOGRAPH-2F824;cIDEOGRAPH-2F825
cIDEOGRAPH-2F826;cIDEOGRAPH-2F827;cIDEOGRAPH-2F828;cIDEOGRAPH-2F829;cIDEOGRAPH-2F82A
cIDEOGRAPH-2F82B;cIDEOGRAPH-2F82C;cIDEOGRAPH-2F82D;cIDEOGRAPH-2F82E;cIDEOGRAPH-2F82F
cIDEOGRAPH-2F830;cIDEOGRAPH-2F831;cIDEOGRAPH-2F832;cIDEOGRAPH-2F833;cIDEOGRAPH-2F834
cIDEOGRAPH-2F835;cIDEOGRAPH-2F836;cIDEOGRAPH-2F837;cIDEOGRAPH-2F838;cIDEOGRAPH-2F839
cIDEOGRAPH-2F83A;cIDEOGRAPH-2F83B;cIDEOGRAPH-2F83C;cIDEOGRAPH-2F83D;cIDEOGRAPH-2F83E
cIDEOGRAPH-2F83F;cIDEOGRAPH-2F840;cIDEOGRAPH-2F841;cIDEOGRAPH-2F842;cIDEOGRAPH-2F843
cIDEOGRAPH-2F844;cIDEOGRAPH-2F845;cIDEOGRAPH-2F846;cIDEOGRAPH-2F847;cIDEOGRAPH-2F848
cIDEOGRAPH-2F849;cIDEOGRAPH-2F84A;cIDEOGRAPH-2F84B;cIDEOGRAPH-2F84C;cIDEOGRAPH-2F84D
cIDEOGRAPH-2F84E;cIDEOGRAPH-2F84F;cIDEOGRAPH-2F850;cIDEOGRAPH-2F851;cIDEOGRAPH-2F852
cIDEOGRAPH-2F853;cIDEOGRAPH-2F854;cIDEOGRAPH-2F855;cIDEOGRAPH-2F856;cIDEOGRAPH-2F857
cIDEOGRAPH-2F858;cIDEOGRAPH-2F859;cIDEOGRAPH-2F85A;cIDEOGRAPH-2F85B;cIDEOGRAPH-2F85C
cIDEOGRAPH-2F85D;cIDEOGRAPH-2F85E;cIDEOGRAPH-2F85F;cIDEOGRAPH-2F860;cIDEOGRAPH-2F861
cIDEOGRAPH-2F862;cIDEOGRAPH-2F863;cIDEOGRAPH-2F864;cIDEOGRAPH-2F865;cIDEOGRAPH-2F866
cIDEOGRAPH-2F867;cIDEOGRAPH-2F868;cIDEOGRAPH-2F869;cIDEOGRAPH-2F86A;cIDEOGRAPH-2F86B
cIDEOGRAPH-2F86C;cIDEOGRAPH-2F86D;cIDEOGRAPH-2F86E;cIDEOGRAPH-2F86F;cIDEOGRAPH-2F870
cIDEOGRAPH-2F871;cIDEOGRAPH-2F872;cIDEOGRAPH-2F873;cIDEOGRAPH-2F874;cIDEOGRAPH-2F875
cIDEOGRAPH-2F876;cIDEOGRAPH-2F877;cIDEOGRAPH-2F878;cIDEOGRAPH-2F879;cIDEOGRAPH-2F87A
cIDEOGRAPH-2F87B;cIDEOGRAPH-2F87C;cIDEOGRAPH-2F87D;cIDEOGRAPH-2F87E;cIDEOGRAPH-2F87F
cIDEOGRAPH-2F880;cIDEOGRAPH-2F881;cIDEOGRAPH-2F882;cIDEOGRAPH-2F883;cIDEOGRAPH-2F884
cIDEOGRAPH-2F885;cIDEOGRAPH-2F886;cIDEOGRAPH-2F887;cIDEOGRAPH-2F888;cIDEOGRAPH-2F889
cIDEOGRAPH-2F88A;cIDEOGRAPH-2F88B;cIDEOGRAPH-2F88C;cIDEOGRAPH-2F88D;cIDEOGRAPH-2F88E
cIDEOGRAPH-2F88F;cIDEOGRAPH-2F890;cIDEOGRAPH-2F891;cIDEOGRAPH-2F892;cIDEOGRAPH-2F893
cIDEOGRAPH-2F894;cIDEOGRAPH-2F895;cIDEOGRAPH-2F896;cIDEOGRAPH-2F897;cIDEOGRAPH-2F898
cIDEOGRAPH-2F899;cIDEOGRAPH-2F89A;cIDEOGRAPH-2F89B;cIDEOGRAPH-2F89C;cIDEOGRAPH-2F89D
cIDEOGRAPH-2F89E;cIDEOGRAPH-2F89F;cIDEOGRAPH-2F8A0;cIDEOGRAPH-2F8A1;cIDEOGRAPH-2F8A2
cIDEOGRAPH-2F8A3;cIDEOGRAPH-2F8A4;cIDEOGRAPH-2F8A5;cIDEOGRAPH-2F8A6;cIDEOGRAPH-2F8A7
cIDEOGRAPH-2F8A8;cIDEOGRAPH-2F8A9;cIDEOGRAPH-2F8AA;cIDEOGRAPH-2F8AB;cIDEOGRAPH-2F8AC
cIDEOGRAPH-2F8AD;cIDEOGRAPH-2F8AE;cIDEOGRAPH-2F8AF;cIDEOGRAPH-2F8B0;cIDEOGRAPH-2F8B1
cIDEOGRAPH-2F8B2;cIDEOGRAPH-2F8B3;cIDEOGRAPH-2F8B4;cIDEOGRAPH-2F8B5;cIDEOGRAPH-2F8B6
cIDEOGRAPH-2F8B7;cIDEOGRAPH-2F8B8;cIDEOGRAPH-2F8B9;cIDEOGRAPH-2F8BA;cIDEOGRAPH-2F8BB
cIDEOGRAPH-2F8BC;cIDEOGRAPH-2F8BD;cIDEOGRAPH-2F8BE;cIDEOGRAPH-2F8BF;cIDEOGRAPH-2F8C0
cIDEOGRAPH-2F8C1;cIDEOGRAPH-2F8C2;cIDEOGRAPH-2F8C3;cIDEOGRAPH-2F8C4;cIDEOGRAPH-2F8C5
cIDEOGRAPH-2F8C6;cIDEOGRAPH-2F8C7;cIDEOGRAPH-2F8C8;cIDEOGRAPH-2F8C9;cIDEOGRAPH-2F8CA
cIDEOGRAPH-2F8CB;cIDEOGRAPH-2F8CC;cIDEOGRAPH-2F8CD;cIDEOGRAPH-2F8CE;cIDEOGRAPH-2F8CF
cIDEOGRAPH-2F8D0;cIDEOGRAPH-2F8D1;cIDEOGRAPH-2F8D2;cIDEOGRAPH-2F8D3;cIDEOGRAPH-2F8D4
cIDEOGRAPH-2F8D5;cIDEOGRAPH-2F8D6;cIDEOGRAPH-2F8D7;cIDEOGRAPH-2F8D8;cIDEOGRAPH-2F8D9
cIDEOGRAPH-2F8DA;cIDEOGRAPH-2F8DB;cIDEOGRAPH-2F8DC;cIDEOGRAPH-2F8DD;cIDEOGRAPH-2F8DE
cIDEOGRAPH-2F8DF;cIDEOGRAPH-2F8E0;cIDEOGRAPH-2F8E1;cIDEOGRAPH-2F8E2;cIDEOGRAPH-2F8E3
cIDEOGRAPH-2F8E4;cIDEOGRAPH-2F8E5;cIDEOGRAPH-2F8E6;cIDEOGRAPH-2F8E7;cIDEOGRAPH-2F8E8
cIDEOGRAPH-2F8E9;cIDEOGRAPH-2F8EA;cIDEOGRAPH-2F8EB;cIDEOGRAPH-2F8EC;cIDEOGRAPH-2F8ED
cIDEOGRAPH-2F8EE;cIDEOGRAPH-2F8EF;cIDEOGRAPH-2F8F0;cIDEOGRAPH-2F8F1;cIDEOGRAPH-2F8F2
cIDEOGRAPH-2F8F3;cIDEOGRAPH-2F8F4;cIDEOGRAPH-2F8F5;cIDEOGRAPH-2F8F6;cIDEOGRAPH-2F8F7
cIDEOGRAPH-2F8F8;cIDEOGRAPH-2F8F9;cIDEOGRAPH-2F8FA;cIDEOGRAPH-2F8FB;cIDEOGRAPH-2F8FC
cIDEOGRAPH-2F8FD;cIDEOGRAPH-2F8FE;cIDEOGRAPH-2F8FF;cIDEOGRAPH-2F900;cIDEOGRAPH-2F901
cIDEOGRAPH-2F902;cIDEOGRAPH-2F903;cIDEOGRAPH-2F904;cIDEOGRAPH-2F905;cIDEOGRAPH-2F906
cIDEOGRAPH-2F907;cIDEOGRAPH-2F908;cIDEOGRAPH-2F909;cIDEOGRAPH-2F90A;cIDEOGRAPH-2F90B
cIDEOGRAPH-2F90C;cIDEOGRAPH-2F90D;cIDEOGRAPH-2F90E;cIDEOGRAPH-2F90F;cIDEOGRAPH-2F910
cIDEOGRAPH-2F911;cIDEOGRAPH-2F912;cIDEOGRAPH-2F913;cIDEOGRAPH-2F914;cIDEOGRAPH-2F915
cIDEOGRAPH-2F916;cIDEOGRAPH-2F917;cIDEOGRAPH-2F918;cIDEOGRAPH-2F919;cIDEOGRAPH-2F91A
cIDEOGRAPH-2F91B;cIDEOGRAPH-2F91C;cIDEOGRAPH-2F91D;cIDEOGRAPH-2F91E;cIDEOGRAPH-2F91F
cIDEOGRAPH-2F920;cIDEOGRAPH-2F921;cIDEOGRAPH-2F922;cIDEOGRAPH-2F923;cIDEOGRAPH-2F924
cIDEOGRAPH-2F925;cIDEOGRAPH-2F926;cIDEOGRAPH-2F927;cIDEOGRAPH-2F928;cIDEOGRAPH-2F929
cIDEOGRAPH-2F92A;cIDEOGRAPH-2F92B;cIDEOGRAPH-2F92C;cIDEOGRAPH-2F92D;cIDEOGRAPH-2F92E
cIDEOGRAPH-2F92F;cIDEOGRAPH-2F930;cIDEOGRAPH-2F931;cIDEOGRAPH-2F932;cIDEOGRAPH-2F933
cIDEOGRAPH-2F934;cIDEOGRAPH-2F935;cIDEOGRAPH-2F936;cIDEOGRAPH-2F937;cIDEOGRAPH-2F938
cIDEOGRAPH-2F939;cIDEOGRAPH-2F93A;cIDEOGRAPH-2F93B;cIDEOGRAPH-2F93C;cIDEOGRAPH-2F93D
cIDEOGRAPH-2F93E;cIDEOGRAPH-2F93F;cIDEOGRAPH-2F940;cIDEOGRAPH-2F941;cIDEOGRAPH-2F942
cIDEOGRAPH-2F943;cIDEOGRAPH-2F944;cIDEOGRAPH-2F945;cIDEOGRAPH-2F946;cIDEOGRAPH-2F947
cIDEOGRAPH-2F948;cIDEOGRAPH-2F949;cIDEOGRAPH-2F94A;cIDEOGRAPH-2F94B;cIDEOGRAPH-2F94C
cIDEOGRAPH-2F94D;cIDEOGRAPH-2F94E;cIDEOGRAPH-2F94F;cIDEOGRAPH-2F950;cIDEOGRAPH-2F951
cIDEOGRAPH-2F952;cIDEOGRAPH-2F953;cIDEOGRAPH-2F954;cIDEOGRAPH-2F955;cIDEOGRAPH-2F956
cIDEOGRAPH-2F957;cIDEOGRAPH-2F958;cIDEOGRAPH-2F959;cIDEOGRAPH-2F95A;cIDEOGRAPH-2F95B
cIDEOGRAPH-2F95C;cIDEOGRAPH-2F95D;cIDEOGRAPH-2F95E;cIDEOGRAPH-2F95F;cIDEOGRAPH-2F960
cIDEOGRAPH-2F961;cIDEOGRAPH-2F962;cIDEOGRAPH-2F963;cIDEOGRAPH-2F964;cIDEOGRAPH-2F965
cIDEOGRAPH-2F966;cIDEOGRAPH-2F967;cIDEOGRAPH-2F968;cIDEOGRAPH-2F969;cIDEOGRAPH-2F96A
cIDEOGRAPH-2F96B;cIDEOGRAPH-2F96C;cIDEOGRAPH-2F96D;cIDEOGRAPH-2F96E;cIDEOGRAPH-2F96F
cIDEOGRAPH-2F970;cIDEOGRAPH-2F971;cIDEOGRAPH-2F972;cIDEOGRAPH-2F973;cIDEOGRAPH-2F974
cIDEOGRAPH-2F975;cIDEOGRAPH-2F976;cIDEOGRAPH-2F977;cIDEOGRAPH-2F978;cIDEOGRAPH-2F979
cIDEOGRAPH-2F97A;cIDEOGRAPH-2F97B;cIDEOGRAPH-2F97C;cIDEOGRAPH-2F97D;cIDEOGRAPH-2F97E
cIDEOGRAPH-2F97F;cIDEOGRAPH-2F980;cIDEOGRAPH-2F981;cIDEOGRAPH-2F982;cIDEOGRAPH-2F983
cIDEOGRAPH-2F984;cIDEOGRAPH-2F985;cIDEOGRAPH-2F986;cIDEOGRAPH-2F987;cIDEOGRAPH-2F988
cIDEOGRAPH-2F989;cIDEOGRAPH-2F98A;cIDEOGRAPH-2F98B;cIDEOGRAPH-2F98C;cIDEOGRAPH-2F98D
cIDEOGRAPH-2F98E;cIDEOGRAPH-2F98F;cIDEOGRAPH-2F990;cIDEOGRAPH-2F991;cIDEOGRAPH-2F992
cIDEOGRAPH-2F993;cIDEOGRAPH-2F994;cIDEOGRAPH-2F995;cIDEOGRAPH-2F996;cIDEOGRAPH-2F997
cIDEOGRAPH-2F998;cIDEOGRAPH-2F999;cIDEOGRAPH-2F99A;cIDEOGRAPH-2F99B;cIDEOGRAPH-2F99C
cIDEOGRAPH-2F99D;cIDEOGRAPH-2F99E;cIDEOGRAPH-2F99F;cIDEOGRAPH-2F9A0;cIDEOGRAPH-2F9A1
cIDEOGRAPH-2F9A2;cIDEOGRAPH-2F9A3;cIDEOGRAPH-2F9A4;cIDEOGRAPH-2F9A5;cIDEOGRAPH-2F9A6
cIDEOGRAPH-2F9A7;cIDEOGRAPH-2F9A8;cIDEOGRAPH-2F9A9;cIDEOGRAPH-2F9AA;cIDEOGRAPH-2F9AB
cIDEOGRAPH-2F9AC;cIDEOGRAPH-2F9AD;cIDEOGRAPH-2F9AE;cIDEOGRAPH-2F9AF;cIDEOGRAPH-2F9B0
cIDEOGRAPH-2F9B1;cIDEOGRAPH-2F9B2;cIDEOGRAPH-2F9B3;cIDEOGRAPH-2F9B4;cIDEOGRAPH-2F9B5
cIDEOGRAPH-2F9B6;cIDEOGRAPH-2F9B7;cIDEOGRAPH-2F9B8;cIDEOGRAPH-2F9B9;cIDEOGRAPH-2F9BA
cIDEOGRAPH-2F9BB;cIDEOGRAPH-2F9BC;cIDEOGRAPH-2F9BD;cIDEOGRAPH-2F9BE;cIDEOGRAPH-2F9BF
cIDEOGRAPH-2F9C0;cIDEOGRAPH-2F9C1;cIDEOGRAPH-2F9C2;cIDEOGRAPH-2F9C3;cIDEOGRAPH-2F9C4
cIDEOGRAPH-2F9C5;cIDEOGRAPH-2F9C6;cIDEOGRAPH-2F9C7;cIDEOGRAPH-2F9C8;cIDEOGRAPH-2F9C9
cIDEOGRAPH-2F9CA;cIDEOGRAPH-2F9CB;cIDEOGRAPH-2F9CC;cIDEOGRAPH-2F9CD;cIDEOGRAPH-2F9CE
cIDEOGRAPH-2F9CF;cIDEOGRAPH-2F9D0;cIDEOGRAPH-2F9D1;cIDEOGRAPH-2F9D2;cIDEOGRAPH-2F9D3
cIDEOGRAPH-2F9D4;cIDEOGRAPH-2F9D5;cIDEOGRAPH-2F9D6;cIDEOGRAPH-2F9D7;cIDEOGRAPH-2F9D8
cIDEOGRAPH-2F9D9;cIDEOGRAPH-2F9DA;cIDEOGRAPH-2F9DB;cIDEOGRAPH-2F9DC;cIDEOGRAPH-2F9DD
cIDEOGRAPH-2F9DE;cIDEOGRAPH-2F9DF;cIDEOGRAPH-2F9E0;cIDEOGRAPH-2F9E1;cIDEOGRAPH-2F9E2
cIDEOGRAPH-2F9E3;cIDEOGRAPH-2F9E4;cIDEOGRAPH-2F9E5;cIDEOGRAPH-2F9E6;cIDEOGRAPH-2F9E7
cIDEOGRAPH-2F9E8;cIDEOGRAPH-2F9E9;cIDEOGRAPH-2F9EA;cIDEOGRAPH-2F9EB;cIDEOGRAPH-2F9EC
cIDEOGRAPH-2F9ED;cIDEOGRAPH-2F9EE;cIDEOGRAPH-2F9EF;cIDEOGRAPH-2F9F0;cIDEOGRAPH-2F9F1
cIDEOGRAPH-2F9F2;cIDEOGRAPH-2F9F3;cIDEOGRAPH-2F9F4;cIDEOGRAPH-2F9F5;cIDEOGRAPH-2F9F6
cIDEOGRAPH-2F9F7;cIDEOGRAPH-2F9F8;cIDEOGRAPH-2F9F9;cIDEOGRAPH-2F9FA;cIDEOGRAPH-2F9FB
cIDEOGRAPH-2F9FC;cIDEOGRAPH-2F9FD;cIDEOGRAPH-2F9FE;cIDEOGRAPH-2F9FF;cIDEOGRAPH-2FA00
cIDEOGRAPH-2FA01;cIDEOGRAPH-2FA02;cIDEOGRAPH-2FA03;cIDEOGRAPH-2FA04;cIDEOGRAPH-2FA05
cIDEOGRAPH-2FA06;cIDEOGRAPH-2FA07;cIDEOGRAPH-2FA08;cIDEOGRAPH-2FA09;cIDEOGRAPH-2FA0A
cIDEOGRAPH-2FA0B;cIDEOGRAPH-2FA0C;cIDEOGRAPH-2FA0D;cIDEOGRAPH-2FA0E;cIDEOGRAPH-2FA0F
cIDEOGRAPH-2FA10;cIDEOGRAPH-2FA11;cIDEOGRAPH-2FA12;cIDEOGRAPH-2FA13;cIDEOGRAPH-2FA14
cIDEOGRAPH-2FA15;cIDEOGRAPH-2FA16;cIDEOGRAPH-2FA17;cIDEOGRAPH-2FA18;cIDEOGRAPH-2FA19
cIDEOGRAPH-2FA1A;cIDEOGRAPH-2FA1B;cIDEOGRAPH-2FA1C;cIDEOGRAPH-2FA1D;@E0001;aLANGUAGE TAG;@E0020
aTAG SPACE;bEXCLAMATION MARK;bQUOTATION MARK;bNUMBER SIGN;bDOLLAR SIGN;bPERCENT SIGN;bAMPERSAND
bAPOSTROPHE;bLEFT PARENTHESIS;bRIGHT PARENTHESIS;bASTERISK;bPLUS SIGN;bCOMMA;bHYPHEN-MINUS
bFULL STOP;bSOLIDUS;bDIGIT ZERO;cONE;cTWO;cTHREE;cFOUR;cFIVE;cSIX;cSEVEN;cEIGHT;cNINE;bCOLON
bSEMICOLON;bLESS-THAN SIGN;bEQUALS SIGN;bGREATER-THAN SIGN;bQUESTION MARK;bCOMMERCIAL AT
bLATIN CAPITAL LETTER A;eB;eC;eD;eE;eF;eG;eH;eI;eJ;eK;eL;eM;eN;eO;eP;eQ;eR;eS;eT;eU;eV;eW;eX;eY;eZ
bLEFT SQUARE BRACKET;bREVERSE SOLIDUS;bRIGHT SQUARE BRACKET;bCIRCUMFLEX ACCENT;bLOW LINE
bGRAVE ACCENT;bLATIN SMALL LETTER A;eB;eC;eD;eE;eF;eG;eH;eI;eJ;eK;eL;eM;eN;eO;eP;eQ;eR;eS;eT;eU;eV
eW;eX;eY;eZ;bLEFT CURLY BRACKET;bVERTICAL LINE;bRIGHT CURLY BRACKET;bTILDE;aCANCEL TAG;@E0100
aVARIATION SELECTOR-17;bSELECTOR-18;bSELECTOR-19;bSELECTOR-20;bSELECTOR-21;bSELECTOR-22
bSELECTOR-23;bSELECTOR-24;bSELECTOR-25;bSELECTOR-26;bSELECTOR-27;bSELECTOR-28;bSELECTOR-29
bSELECTOR-30;bSELECTOR-31;bSELECTOR-32;bSELECTOR-33;bSELECTOR-34;bSELECTOR-35;bSELECTOR-36
bSELECTOR-37;bSELECTOR-38;bSELECTOR-39;bSELECTOR-40;bSELECTOR-41;bSELECTOR-42;bSELECTOR-43
bSELECTOR-44;bSELECTOR-45;bSELECTOR-46;bSELECTOR-47;bSELECTOR-48;bSELECTOR-49;bSELECTOR-50
bSELECTOR-51;bSELECTOR-52;bSELECTOR-53;bSELECTOR-54;bSELECTOR-55;bSELECTOR-56;bSELECTOR-57
bSELECTOR-58;bSELECTOR-59;bSELECTOR-60;bSELECTOR-61;bSELECTOR-62;bSELECTOR-63;bSELECTOR-64
bSELECTOR-65;bSELECTOR-66;bSELECTOR-67;bSELECTOR-68;bSELECTOR-69;bSELECTOR-70;bSELECTOR-71
bSELECTOR-72;bSELECTOR-73;bSELECTOR-74;bSELECTOR-75;bSELECTOR-76;bSELECTOR-77;bSELECTOR-78
bSELECTOR-79;bSELECTOR-80;bSELECTOR-81;bSELECTOR-82;bSELECTOR-83;bSELECTOR-84;bSELECTOR-85
bSELECTOR-86;bSELECTOR-87;bSELECTOR-88;bSELECTOR-89;bSELECTOR-90;bSELECTOR-91;bSELECTOR-92
bSELECTOR-93;bSELECTOR-94;bSELECTOR-95;bSELECTOR-96;bSELECTOR-97;bSELECTOR-98;bSELECTOR-99
bSELECTOR-100;bSELECTOR-101;bSELECTOR-102;bSELECTOR-103;bSELECTOR-104;bSELECTOR-105;bSELECTOR-106
bSELECTOR-107;bSELECTOR-108;bSELECTOR-109;bSELECTOR-110;bSELECTOR-111;bSELECTOR-112;bSELECTOR-113
bSELECTOR-114;bSELECTOR-115;bSELECTOR-116;bSELECTOR-117;bSELECTOR-118;bSELECTOR-119;bSELECTOR-120
bSELECTOR-121;bSELECTOR-122;bSELECTOR-123;bSELECTOR-124;bSELECTOR-125;bSELECTOR-126;bSELECTOR-127
bSELECTOR-128;bSELECTOR-129;bSELECTOR-130;bSELECTOR-131;bSELECTOR-132;bSELECTOR-133;bSELECTOR-134
bSELECTOR-135;bSELECTOR-136;bSELECTOR-137;bSELECTOR-138;bSELECTOR-139;bSELECTOR-140;bSELECTOR-141
bSELECTOR-142;bSELECTOR-143;bSELECTOR-144;bSELECTOR-145;bSELECTOR-146;bSELECTOR-147;bSELECTOR-148
bSELECTOR-149;bSELECTOR-150;bSELECTOR-151;bSELECTOR-152;bSELECTOR-153;bSELECTOR-154;bSELECTOR-155
bSELECTOR-156;bSELECTOR-157;bSELECTOR-158;bSELECTOR-159;bSELECTOR-160;bSELECTOR-161;bSELECTOR-162
bSELECTOR-163;bSELECTOR-164;bSELECTOR-165;bSELECTOR-166;bSELECTOR-167;bSELECTOR-168;bSELECTOR-169
bSELECTOR-170;bSELECTOR-171;bSELECTOR-172;bSELECTOR-173;bSELECTOR-174;bSELECTOR-175;bSELECTOR-176
bSELECTOR-177;bSELECTOR-178;bSELECTOR-179;bSELECTOR-180;bSELECTOR-181;bSELECTOR-182;bSELECTOR-183
bSELECTOR-184;bSELECTOR-185;bSELECTOR-186;bSELECTOR-187;bSELECTOR-188;bSELECTOR-189;bSELECTOR-190
bSELECTOR-191;bSELECTOR-192;bSELECTOR-193;bSELECTOR-194;bSELECTOR-195;bSELECTOR-196;bSELECTOR-197
bSELECTOR-198;bSELECTOR-199;bSELECTOR-200;bSELECTOR-201;bSELECTOR-202;bSELECTOR-203;bSELECTOR-204
bSELECTOR-205;bSELECTOR-206;bSELECTOR-207;bSELECTOR-208;bSELECTOR-209;bSELECTOR-210;bSELECTOR-211
bSELECTOR-212;bSELECTOR-213;bSELECTOR-214;bSELECTOR-215;bSELECTOR-216;bSELECTOR-217;bSELECTOR-218
bSELECTOR-219;bSELECTOR-220;bSELECTOR-221;bSELECTOR-222;bSELECTOR-223;bSELECTOR-224;bSELECTOR-225
bSELECTOR-226;bSELECTOR-227;bSELECTOR-228;bSELECTOR-229;bSELECTOR-230;bSELECTOR-231;bSELECTOR-232
bSELECTOR-233;bSELECTOR-234;bSELECTOR-235;bSELECTOR-236;bSELECTOR-237;bSELECTOR-238;bSELECTOR-239
bSELECTOR-240;bSELECTOR-241;bSELECTOR-242;bSELECTOR-243;bSELECTOR-244;bSELECTOR-245;bSELECTOR-246
bSELECTOR-247;bSELECTOR-248;bSELECTOR-249;bSELECTOR-250;bSELECTOR-251;bSELECTOR-252;bSELECTOR-253
bSELECTOR-254;bSELECTOR-255;bSELECTOR-256;@0;aNUL;@0;aNULL;aSOH;@1;aSTART OF HEADING;cTEXT;@2;aSTX
aEND OF TEXT;@3;aETX;aEND OF TRANSMISSION;@4;aEOT;aENQ;@5;aENQUIRY;aACK;@6;aACKNOWLEDGE;aALERT;@7
aBEL;aBACKSPACE;@8;aBS;aCHARACTER TABULATION;@9;aHORIZONTAL TABULATION;@9;aHT;@9;aTAB;aEND OF LINE
@A;aEOL;@A;aLF;@A;aLINE FEED;@A;aNEW LINE;@A;aNL;aLINE TABULATION;@B;aVERTICAL TABULATION;@B;aVT
aFF;@C;aFORM FEED;aCARRIAGE RETURN;@D;aCR;aLOCKING-SHIFT ONE;@E;aSHIFT OUT;@E;aSO
aLOCKING-SHIFT ZERO;@F;aSHIFT IN;@F;aSI;aDATA LINK ESCAPE;@10;aDLE;aDC1;@11;aDEVICE CONTROL ONE
aDC2;@12;aDEVICE CONTROL TWO;aDC3;@13;aDEVICE CONTROL THREE;aDC4;@14;aDEVICE CONTROL FOUR;aNAK;@15
aNEGATIVE ACKNOWLEDGE;aSYN;@16;aSYNCHRONOUS IDLE;aEND OF TRANSMISSION BLOCK;@17;aETB;aCAN;@18
aCANCEL;aEND OF MEDIUM;@19;aEOM;aSUB;@1A;aSUBSTITUTE;aESC;@1B;aESCAPE;aFILE SEPARATOR;@1C;aFS;@1C
aINFORMATION SEPARATOR FOUR;aGROUP SEPARATOR;@1D;aGS;@1D;aINFORMATION SEPARATOR THREE;cTWO;@1E
aRECORD SEPARATOR;@1E;aRS;aINFORMATION SEPARATOR ONE;@1F;aUNIT SEPARATOR;@1F;aUS;aSP;@7F;aDEL;@7F
aDELETE;aPAD;@80;aPADDING CHARACTER;aHIGH OCTET PRESET;@81;aHOP;aBPH;@82;aBREAK PERMITTED HERE
aNBH;@83;aNO BREAK HERE;aIND;@84;aINDEX;aNEL;@85;aNEXT LINE;aSSA;@86;aSTART OF SELECTED AREA
aEND OF SELECTED AREA;@87;aESA;aCHARACTER TABULATION SET;@88;aHORIZONTAL TABULATION SET;@88;aHTS
aCHARACTER TABULATION WITH JUSTIFICATION;@89;aHORIZONTAL TABULATION WITH JUSTIFICATION;@89;aHTJ
aLINE TABULATION SET;@8A;aVERTICAL TABULATION SET;@8A;aVTS;aPARTIAL LINE DOWN;@8B;cFORWARD;@8B
aPLD;aPARTIAL LINE BACKWARD;@8C;cUP;@8C;aPLU;aREVERSE INDEX;@8D;bLINE FEED;@8D;aRI
aSINGLE SHIFT TWO;@8E;aSINGLE-SHIFT-2;@8E;aSS2;aSINGLE SHIFT THREE;@8F;aSINGLE-SHIFT-3;@8F;aSS3
aDCS;@90;aDEVICE CONTROL STRING;aPRIVATE USE ONE;@91;bUSE-1;@91;aPU1;aPRIVATE USE TWO;@92;bUSE-2
@92;aPU2;aSET TRANSMIT STATE;@93;aSTS;aCANCEL CHARACTER;@94;aCCH;aMESSAGE WAITING;@95;aMW;aSPA;@96
aSTART OF GUARDED AREA;@96;cPROTECTED AREA;aEND OF GUARDED AREA;@97;cPROTECTED AREA;@97;aEPA;aSOS
@98;aSTART OF STRING;aSGC;@99;aSINGLE GRAPHIC CHARACTER INTRODUCER;aSCI;@9A
aSINGLE CHARACTER INTRODUCER;aCONTROL SEQUENCE INTRODUCER;@9B;aCSI;aST;@9C;aSTRING TERMINATOR
aOPERATING SYSTEM COMMAND;@9D;aOSC;aPM;@9E;aPRIVACY MESSAGE;aAPC;@9F;aAPPLICATION PROGRAM COMMAND
aNBSP;@AD;aSHY;@1A2;aLATIN CAPITAL LETTER GHA;bSMALL LETTER GHA;@34F;aCGJ;@61C;aALM;@709
aSYRIAC SUBLINEAR COLON SKEWED LEFT;@CDE;aKANNADA LETTER LLLA;@E9D;aLAO LETTER FO FON;@E9F;dFAY
@EA3;cRO;@EA5;cLO;@FD0;aTIBETAN MARK BKA- SHOG GI MGO RGYAN;@11EC
aHANGUL JONGSEONG YESIEUNG-KIYEOK;cYESIEUNG-SSANGKIYEOK;cSSANGYESIEUNG;cYESIEUNG-KHIEUKH;@180B
aFVS1;aFVS2;aFVS3;aMVS;aFVS4;@200B;aZWSP;aZWNJ;aZWJ;aLRM;aRLM;@202A;aLRE;aRLE;aPDF;aLRO;aRLO
aNNBSP;@205F;aMMSP;aWJ;@2066;aLRI;aRLI;aFSI;aPDI;@2118;aWEIERSTRASS ELLIPTIC FUNCTION;@2448
aMICR ON US SYMBOL;bDASH SYMBOL;@2B7A;aLEFTWARDS TRIANGLE-HEADED ARROW WITH DOUBLE VERTICAL STROKE
@2B7C;aRIGHTWARDS TRIANGLE-HEADED ARROW WITH DOUBLE VERTICAL STROKE;@A015
aYI SYLLABLE ITERATION MARK;@AA6E;aMYANMAR LETTER KHAMTI LLA;@FE00;aVS1;aVS2;aVS3;aVS4;aVS5;aVS6
aVS7;aVS8;aVS9;aVS10;aVS11;aVS12;aVS13;aVS14;aVS15;aVS16;@FE18
aPRESENTATION FORM FOR VERTICAL RIGHT WHITE LENTICULAR BRACKET;@FEFF;aBOM;@FEFF;aBYTE ORDER MARK
@FEFF;aZWNBSP;@122D4;aCUNEIFORM SIGN NU11 TENU;dOVER NU11 BUR OVER BUR;@16E56
aMEDEFAIDRIN CAPITAL LETTER H;dNG;@16E76;bSMALL LETTER H;dNG;@1B001;aHENTAIGANA LETTER E-1;@1D0C5
aBYZANTINE MUSICAL SYMBOL FTHORA SKLIRON CHROMA VASIS;@E0100;aVS17;aVS18;aVS19;aVS20;aVS21;aVS22
aVS23;aVS24;aVS25;aVS26;aVS27;aVS28;aVS29;aVS30;aVS31;aVS32;aVS33;aVS34;aVS35;aVS36;aVS37;aVS38
aVS39;aVS40;aVS41;aVS42;aVS43;aVS44;aVS45;aVS46;aVS47;aVS48;aVS49;aVS50;aVS51;aVS52;aVS53;aVS54
aVS55;aVS56;aVS57;aVS58;aVS59;aVS60;aVS61;aVS62;aVS63;aVS64;aVS65;aVS66;aVS67;aVS68;aVS69;aVS70
aVS71;aVS72;aVS73;aVS74;aVS75;aVS76;aVS77;aVS78;aVS79;aVS80;aVS81;aVS82;aVS83;aVS84;aVS85;aVS86
aVS87;aVS88;aVS89;aVS90;aVS91;aVS92;aVS93;aVS94;aVS95;aVS96;aVS97;aVS98;aVS99;aVS100;aVS101;aVS102
aVS103;aVS104;aVS105;aVS106;aVS107;aVS108;aVS109;aVS110;aVS111;aVS112;aVS113;aVS114;aVS115;aVS116
aVS117;aVS118;aVS119;aVS120;aVS121;aVS122;aVS123;aVS124;aVS125;aVS126;aVS127;aVS128;aVS129;aVS130
aVS131;aVS132;aVS133;aVS134;aVS135;aVS136;aVS137;aVS138;aVS139;aVS140;aVS141;aVS142;aVS143;aVS144
aVS145;aVS146;aVS147;aVS148;aVS149;aVS150;aVS151;aVS152;aVS153;aVS154;aVS155;aVS156;aVS157;aVS158
aVS159;aVS160;aVS161;aVS162;aVS163;aVS164;aVS165;aVS166;aVS167;aVS168;aVS169;aVS170;aVS171;aVS172
aVS173;aVS174;aVS175;aVS176;aVS177;aVS178;aVS179;aVS180;aVS181;aVS182;aVS183;aVS184;aVS185;aVS186
aVS187;aVS188;aVS189;aVS190;aVS191;aVS192;aVS193;aVS194;aVS195;aVS196;aVS197;aVS198;aVS199;aVS200
aVS201;aVS202;aVS203;aVS204;aVS205;aVS206;aVS207;aVS208;aVS209;aVS210;aVS211;aVS212;aVS213;aVS214
aVS215;aVS216;aVS217;aVS218;aVS219;aVS220;aVS221;aVS222;aVS223;aVS224;aVS225;aVS226;aVS227;aVS228
aVS229;aVS230;aVS231;aVS232;aVS233;aVS234;aVS235;aVS236;aVS237;aVS238;aVS239;aVS240;aVS241;aVS242
aVS243;aVS244;aVS245;aVS246;aVS247;aVS248;aVS249;aVS250;aVS251;aVS252;aVS253;aVS254;aVS255;aVS256"

end StepCatalog.Unicode
