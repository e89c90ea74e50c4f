/-!
The names of characters in HTML documents.

A reference by name is an ampersand and one of these names. Most names end in a semicolon; the
oldest also stand without it. The names are grouped by their first letters, and in each group they
descend, so that a name comes before all names that it starts with.
-/

namespace Chronogram.Markup.NamedReference

def capitalA : List (String × List Nat) := [
  ("Auml;", [0xC4]), ("Auml", [0xC4]), ("Atilde;", [0xC3]), ("Atilde", [0xC3]),
  ("Assign;", [0x2254]), ("Ascr;", [0x1D49C]), ("Aring;", [0xC5]), ("Aring", [0xC5]),
  ("ApplyFunction;", [0x2061]), ("Aopf;", [0x1D538]), ("Aogon;", [0x104]), ("And;", [0x2A53]),
  ("Amacr;", [0x100]), ("Alpha;", [0x391]), ("Agrave;", [0xC0]), ("Agrave", [0xC0]),
  ("Afr;", [0x1D504]), ("Acy;", [0x410]), ("Acirc;", [0xC2]), ("Acirc", [0xC2]),
  ("Abreve;", [0x102]), ("Aacute;", [0xC1]), ("Aacute", [0xC1]), ("AMP;", [0x26]), ("AMP", [0x26]),
  ("AElig;", [0xC6]), ("AElig", [0xC6])]

def capitalB : List (String × List Nat) := [
  ("Bumpeq;", [0x224E]), ("Bscr;", [0x212C]), ("Breve;", [0x2D8]), ("Bopf;", [0x1D539]),
  ("Bfr;", [0x1D505]), ("Beta;", [0x392]), ("Bernoullis;", [0x212C]), ("Because;", [0x2235]),
  ("Bcy;", [0x411]), ("Barwed;", [0x2306]), ("Barv;", [0x2AE7]), ("Backslash;", [0x2216])]

def capitalC : List (String × List Nat) := [
  ("CupCap;", [0x224D]), ("Cup;", [0x22D3]), ("Cscr;", [0x1D49E]), ("Cross;", [0x2A2F]),
  ("CounterClockwiseContourIntegral;", [0x2233]), ("Coproduct;", [0x2210]), ("Copf;", [0x2102]),
  ("ContourIntegral;", [0x222E]), ("Conint;", [0x222F]), ("Congruent;", [0x2261]),
  ("Colone;", [0x2A74]), ("Colon;", [0x2237]), ("CloseCurlyQuote;", [0x2019]),
  ("CloseCurlyDoubleQuote;", [0x201D]), ("ClockwiseContourIntegral;", [0x2232]),
  ("CircleTimes;", [0x2297]), ("CirclePlus;", [0x2295]), ("CircleMinus;", [0x2296]),
  ("CircleDot;", [0x2299]), ("Chi;", [0x3A7]), ("Cfr;", [0x212D]), ("CenterDot;", [0xB7]),
  ("Cedilla;", [0xB8]), ("Cdot;", [0x10A]), ("Cconint;", [0x2230]), ("Ccirc;", [0x108]),
  ("Ccedil;", [0xC7]), ("Ccedil", [0xC7]), ("Ccaron;", [0x10C]), ("Cayleys;", [0x212D]),
  ("CapitalDifferentialD;", [0x2145]), ("Cap;", [0x22D2]), ("Cacute;", [0x106]), ("COPY;", [0xA9]),
  ("COPY", [0xA9]), ("CHcy;", [0x427])]

def capitalD : List (String × List Nat) := [
  ("Dstrok;", [0x110]), ("Dscr;", [0x1D49F]), ("Downarrow;", [0x21D3]), ("DownTeeArrow;", [0x21A7]),
  ("DownTee;", [0x22A4]), ("DownRightVectorBar;", [0x2957]), ("DownRightVector;", [0x21C1]),
  ("DownRightTeeVector;", [0x295F]), ("DownLeftVectorBar;", [0x2956]),
  ("DownLeftVector;", [0x21BD]), ("DownLeftTeeVector;", [0x295E]),
  ("DownLeftRightVector;", [0x2950]), ("DownBreve;", [0x311]), ("DownArrowUpArrow;", [0x21F5]),
  ("DownArrowBar;", [0x2913]), ("DownArrow;", [0x2193]), ("DoubleVerticalBar;", [0x2225]),
  ("DoubleUpDownArrow;", [0x21D5]), ("DoubleUpArrow;", [0x21D1]), ("DoubleRightTee;", [0x22A8]),
  ("DoubleRightArrow;", [0x21D2]), ("DoubleLongRightArrow;", [0x27F9]),
  ("DoubleLongLeftRightArrow;", [0x27FA]), ("DoubleLongLeftArrow;", [0x27F8]),
  ("DoubleLeftTee;", [0x2AE4]), ("DoubleLeftRightArrow;", [0x21D4]), ("DoubleLeftArrow;", [0x21D0]),
  ("DoubleDownArrow;", [0x21D3]), ("DoubleDot;", [0xA8]), ("DoubleContourIntegral;", [0x222F]),
  ("DotEqual;", [0x2250]), ("DotDot;", [0x20DC]), ("Dot;", [0xA8]), ("Dopf;", [0x1D53B]),
  ("DifferentialD;", [0x2146]), ("Diamond;", [0x22C4]), ("DiacriticalTilde;", [0x2DC]),
  ("DiacriticalGrave;", [0x60]), ("DiacriticalDoubleAcute;", [0x2DD]), ("DiacriticalDot;", [0x2D9]),
  ("DiacriticalAcute;", [0xB4]), ("Dfr;", [0x1D507]), ("Delta;", [0x394]), ("Del;", [0x2207]),
  ("Dcy;", [0x414]), ("Dcaron;", [0x10E]), ("Dashv;", [0x2AE4]), ("Darr;", [0x21A1]),
  ("Dagger;", [0x2021]), ("DZcy;", [0x40F]), ("DScy;", [0x405]), ("DJcy;", [0x402]),
  ("DDotrahd;", [0x2911]), ("DD;", [0x2145])]

def capitalE : List (String × List Nat) := [
  ("ExponentialE;", [0x2147]), ("Exists;", [0x2203]), ("Euml;", [0xCB]), ("Euml", [0xCB]),
  ("Eta;", [0x397]), ("Esim;", [0x2A73]), ("Escr;", [0x2130]), ("Equilibrium;", [0x21CC]),
  ("EqualTilde;", [0x2242]), ("Equal;", [0x2A75]), ("Epsilon;", [0x395]), ("Eopf;", [0x1D53C]),
  ("Eogon;", [0x118]), ("EmptyVerySmallSquare;", [0x25AB]), ("EmptySmallSquare;", [0x25FB]),
  ("Emacr;", [0x112]), ("Element;", [0x2208]), ("Egrave;", [0xC8]), ("Egrave", [0xC8]),
  ("Efr;", [0x1D508]), ("Edot;", [0x116]), ("Ecy;", [0x42D]), ("Ecirc;", [0xCA]), ("Ecirc", [0xCA]),
  ("Ecaron;", [0x11A]), ("Eacute;", [0xC9]), ("Eacute", [0xC9]), ("ETH;", [0xD0]), ("ETH", [0xD0]),
  ("ENG;", [0x14A])]

def capitalF : List (String × List Nat) := [
  ("Fscr;", [0x2131]), ("Fouriertrf;", [0x2131]), ("ForAll;", [0x2200]), ("Fopf;", [0x1D53D]),
  ("FilledVerySmallSquare;", [0x25AA]), ("FilledSmallSquare;", [0x25FC]), ("Ffr;", [0x1D509]),
  ("Fcy;", [0x424])]

def capitalG : List (String × List Nat) := [
  ("Gt;", [0x226B]), ("Gscr;", [0x1D4A2]), ("GreaterTilde;", [0x2273]),
  ("GreaterSlantEqual;", [0x2A7E]), ("GreaterLess;", [0x2277]), ("GreaterGreater;", [0x2AA2]),
  ("GreaterFullEqual;", [0x2267]), ("GreaterEqualLess;", [0x22DB]), ("GreaterEqual;", [0x2265]),
  ("Gopf;", [0x1D53E]), ("Gg;", [0x22D9]), ("Gfr;", [0x1D50A]), ("Gdot;", [0x120]),
  ("Gcy;", [0x413]), ("Gcirc;", [0x11C]), ("Gcedil;", [0x122]), ("Gbreve;", [0x11E]),
  ("Gammad;", [0x3DC]), ("Gamma;", [0x393]), ("GT;", [0x3E]), ("GT", [0x3E]), ("GJcy;", [0x403])]

def capitalH : List (String × List Nat) := [
  ("HumpEqual;", [0x224F]), ("HumpDownHump;", [0x224E]), ("Hstrok;", [0x126]), ("Hscr;", [0x210B]),
  ("HorizontalLine;", [0x2500]), ("Hopf;", [0x210D]), ("HilbertSpace;", [0x210B]),
  ("Hfr;", [0x210C]), ("Hcirc;", [0x124]), ("Hat;", [0x5E]), ("Hacek;", [0x2C7]),
  ("HARDcy;", [0x42A])]

def capitalI : List (String × List Nat) := [
  ("Iuml;", [0xCF]), ("Iuml", [0xCF]), ("Iukcy;", [0x406]), ("Itilde;", [0x128]),
  ("Iscr;", [0x2110]), ("Iota;", [0x399]), ("Iopf;", [0x1D540]), ("Iogon;", [0x12E]),
  ("InvisibleTimes;", [0x2062]), ("InvisibleComma;", [0x2063]), ("Intersection;", [0x22C2]),
  ("Integral;", [0x222B]), ("Int;", [0x222C]), ("Implies;", [0x21D2]), ("ImaginaryI;", [0x2148]),
  ("Imacr;", [0x12A]), ("Im;", [0x2111]), ("Igrave;", [0xCC]), ("Igrave", [0xCC]),
  ("Ifr;", [0x2111]), ("Idot;", [0x130]), ("Icy;", [0x418]), ("Icirc;", [0xCE]), ("Icirc", [0xCE]),
  ("Iacute;", [0xCD]), ("Iacute", [0xCD]), ("IOcy;", [0x401]), ("IJlig;", [0x132]),
  ("IEcy;", [0x415])]

def capitalJ : List (String × List Nat) := [
  ("Jukcy;", [0x404]), ("Jsercy;", [0x408]), ("Jscr;", [0x1D4A5]), ("Jopf;", [0x1D541]),
  ("Jfr;", [0x1D50D]), ("Jcy;", [0x419]), ("Jcirc;", [0x134])]

def capitalK : List (String × List Nat) := [
  ("Kscr;", [0x1D4A6]), ("Kopf;", [0x1D542]), ("Kfr;", [0x1D50E]), ("Kcy;", [0x41A]),
  ("Kcedil;", [0x136]), ("Kappa;", [0x39A]), ("KJcy;", [0x40C]), ("KHcy;", [0x425])]

def capitalL : List (String × List Nat) := [
  ("Lt;", [0x226A]), ("Lstrok;", [0x141]), ("Lsh;", [0x21B0]), ("Lscr;", [0x2112]),
  ("LowerRightArrow;", [0x2198]), ("LowerLeftArrow;", [0x2199]), ("Lopf;", [0x1D543]),
  ("Longrightarrow;", [0x27F9]), ("Longleftrightarrow;", [0x27FA]), ("Longleftarrow;", [0x27F8]),
  ("LongRightArrow;", [0x27F6]), ("LongLeftRightArrow;", [0x27F7]), ("LongLeftArrow;", [0x27F5]),
  ("Lmidot;", [0x13F]), ("Lleftarrow;", [0x21DA]), ("Ll;", [0x22D8]), ("Lfr;", [0x1D50F]),
  ("LessTilde;", [0x2272]), ("LessSlantEqual;", [0x2A7D]), ("LessLess;", [0x2AA1]),
  ("LessGreater;", [0x2276]), ("LessFullEqual;", [0x2266]), ("LessEqualGreater;", [0x22DA]),
  ("Leftrightarrow;", [0x21D4]), ("Leftarrow;", [0x21D0]), ("LeftVectorBar;", [0x2952]),
  ("LeftVector;", [0x21BC]), ("LeftUpVectorBar;", [0x2958]), ("LeftUpVector;", [0x21BF]),
  ("LeftUpTeeVector;", [0x2960]), ("LeftUpDownVector;", [0x2951]), ("LeftTriangleEqual;", [0x22B4]),
  ("LeftTriangleBar;", [0x29CF]), ("LeftTriangle;", [0x22B2]), ("LeftTeeVector;", [0x295A]),
  ("LeftTeeArrow;", [0x21A4]), ("LeftTee;", [0x22A3]), ("LeftRightVector;", [0x294E]),
  ("LeftRightArrow;", [0x2194]), ("LeftFloor;", [0x230A]), ("LeftDownVectorBar;", [0x2959]),
  ("LeftDownVector;", [0x21C3]), ("LeftDownTeeVector;", [0x2961]), ("LeftDoubleBracket;", [0x27E6]),
  ("LeftCeiling;", [0x2308]), ("LeftArrowRightArrow;", [0x21C6]), ("LeftArrowBar;", [0x21E4]),
  ("LeftArrow;", [0x2190]), ("LeftAngleBracket;", [0x27E8]), ("Lcy;", [0x41B]),
  ("Lcedil;", [0x13B]), ("Lcaron;", [0x13D]), ("Larr;", [0x219E]), ("Laplacetrf;", [0x2112]),
  ("Lang;", [0x27EA]), ("Lambda;", [0x39B]), ("Lacute;", [0x139]), ("LT;", [0x3C]), ("LT", [0x3C]),
  ("LJcy;", [0x409])]

def capitalM : List (String × List Nat) := [
  ("Mu;", [0x39C]), ("Mscr;", [0x2133]), ("Mopf;", [0x1D544]), ("MinusPlus;", [0x2213]),
  ("Mfr;", [0x1D510]), ("Mellintrf;", [0x2133]), ("MediumSpace;", [0x205F]), ("Mcy;", [0x41C]),
  ("Map;", [0x2905])]

def capitalN : List (String × List Nat) := [
  ("Nu;", [0x39D]), ("Ntilde;", [0xD1]), ("Ntilde", [0xD1]), ("Nscr;", [0x1D4A9]),
  ("NotVerticalBar;", [0x2224]), ("NotTildeTilde;", [0x2249]), ("NotTildeFullEqual;", [0x2247]),
  ("NotTildeEqual;", [0x2244]), ("NotTilde;", [0x2241]), ("NotSupersetEqual;", [0x2289]),
  ("NotSuperset;", [0x2283, 0x20D2]), ("NotSucceedsTilde;", [0x227F, 0x338]),
  ("NotSucceedsSlantEqual;", [0x22E1]), ("NotSucceedsEqual;", [0x2AB0, 0x338]),
  ("NotSucceeds;", [0x2281]), ("NotSubsetEqual;", [0x2288]), ("NotSubset;", [0x2282, 0x20D2]),
  ("NotSquareSupersetEqual;", [0x22E3]), ("NotSquareSuperset;", [0x2290, 0x338]),
  ("NotSquareSubsetEqual;", [0x22E2]), ("NotSquareSubset;", [0x228F, 0x338]),
  ("NotRightTriangleEqual;", [0x22ED]), ("NotRightTriangleBar;", [0x29D0, 0x338]),
  ("NotRightTriangle;", [0x22EB]), ("NotReverseElement;", [0x220C]),
  ("NotPrecedesSlantEqual;", [0x22E0]), ("NotPrecedesEqual;", [0x2AAF, 0x338]),
  ("NotPrecedes;", [0x2280]), ("NotNestedLessLess;", [0x2AA1, 0x338]),
  ("NotNestedGreaterGreater;", [0x2AA2, 0x338]), ("NotLessTilde;", [0x2274]),
  ("NotLessSlantEqual;", [0x2A7D, 0x338]), ("NotLessLess;", [0x226A, 0x338]),
  ("NotLessGreater;", [0x2278]), ("NotLessEqual;", [0x2270]), ("NotLess;", [0x226E]),
  ("NotLeftTriangleEqual;", [0x22EC]), ("NotLeftTriangleBar;", [0x29CF, 0x338]),
  ("NotLeftTriangle;", [0x22EA]), ("NotHumpEqual;", [0x224F, 0x338]),
  ("NotHumpDownHump;", [0x224E, 0x338]), ("NotGreaterTilde;", [0x2275]),
  ("NotGreaterSlantEqual;", [0x2A7E, 0x338]), ("NotGreaterLess;", [0x2279]),
  ("NotGreaterGreater;", [0x226B, 0x338]), ("NotGreaterFullEqual;", [0x2267, 0x338]),
  ("NotGreaterEqual;", [0x2271]), ("NotGreater;", [0x226F]), ("NotExists;", [0x2204]),
  ("NotEqualTilde;", [0x2242, 0x338]), ("NotEqual;", [0x2260]), ("NotElement;", [0x2209]),
  ("NotDoubleVerticalBar;", [0x2226]), ("NotCupCap;", [0x226D]), ("NotCongruent;", [0x2262]),
  ("Not;", [0x2AEC]), ("Nopf;", [0x2115]), ("NonBreakingSpace;", [0xA0]), ("NoBreak;", [0x2060]),
  ("Nfr;", [0x1D511]), ("NewLine;", [0xA]), ("NestedLessLess;", [0x226A]),
  ("NestedGreaterGreater;", [0x226B]), ("NegativeVeryThinSpace;", [0x200B]),
  ("NegativeThinSpace;", [0x200B]), ("NegativeThickSpace;", [0x200B]),
  ("NegativeMediumSpace;", [0x200B]), ("Ncy;", [0x41D]), ("Ncedil;", [0x145]), ("Ncaron;", [0x147]),
  ("Nacute;", [0x143]), ("NJcy;", [0x40A])]

def capitalO : List (String × List Nat) := [
  ("OverParenthesis;", [0x23DC]), ("OverBracket;", [0x23B4]), ("OverBrace;", [0x23DE]),
  ("OverBar;", [0x203E]), ("Ouml;", [0xD6]), ("Ouml", [0xD6]), ("Otimes;", [0x2A37]),
  ("Otilde;", [0xD5]), ("Otilde", [0xD5]), ("Oslash;", [0xD8]), ("Oslash", [0xD8]),
  ("Oscr;", [0x1D4AA]), ("Or;", [0x2A54]), ("OpenCurlyQuote;", [0x2018]),
  ("OpenCurlyDoubleQuote;", [0x201C]), ("Oopf;", [0x1D546]), ("Omicron;", [0x39F]),
  ("Omega;", [0x3A9]), ("Omacr;", [0x14C]), ("Ograve;", [0xD2]), ("Ograve", [0xD2]),
  ("Ofr;", [0x1D512]), ("Odblac;", [0x150]), ("Ocy;", [0x41E]), ("Ocirc;", [0xD4]),
  ("Ocirc", [0xD4]), ("Oacute;", [0xD3]), ("Oacute", [0xD3]), ("OElig;", [0x152])]

def capitalP : List (String × List Nat) := [
  ("Psi;", [0x3A8]), ("Pscr;", [0x1D4AB]), ("Proportional;", [0x221D]), ("Proportion;", [0x2237]),
  ("Product;", [0x220F]), ("Prime;", [0x2033]), ("PrecedesTilde;", [0x227E]),
  ("PrecedesSlantEqual;", [0x227C]), ("PrecedesEqual;", [0x2AAF]), ("Precedes;", [0x227A]),
  ("Pr;", [0x2ABB]), ("Popf;", [0x2119]), ("Poincareplane;", [0x210C]), ("PlusMinus;", [0xB1]),
  ("Pi;", [0x3A0]), ("Phi;", [0x3A6]), ("Pfr;", [0x1D513]), ("Pcy;", [0x41F]),
  ("PartialD;", [0x2202])]

def capitalQ : List (String × List Nat) := [
  ("Qscr;", [0x1D4AC]), ("Qopf;", [0x211A]), ("Qfr;", [0x1D514]), ("QUOT;", [0x22]),
  ("QUOT", [0x22])]

def capitalR : List (String × List Nat) := [
  ("RuleDelayed;", [0x29F4]), ("Rsh;", [0x21B1]), ("Rscr;", [0x211B]), ("Rrightarrow;", [0x21DB]),
  ("RoundImplies;", [0x2970]), ("Ropf;", [0x211D]), ("Rightarrow;", [0x21D2]),
  ("RightVectorBar;", [0x2953]), ("RightVector;", [0x21C0]), ("RightUpVectorBar;", [0x2954]),
  ("RightUpVector;", [0x21BE]), ("RightUpTeeVector;", [0x295C]), ("RightUpDownVector;", [0x294F]),
  ("RightTriangleEqual;", [0x22B5]), ("RightTriangleBar;", [0x29D0]), ("RightTriangle;", [0x22B3]),
  ("RightTeeVector;", [0x295B]), ("RightTeeArrow;", [0x21A6]), ("RightTee;", [0x22A2]),
  ("RightFloor;", [0x230B]), ("RightDownVectorBar;", [0x2955]), ("RightDownVector;", [0x21C2]),
  ("RightDownTeeVector;", [0x295D]), ("RightDoubleBracket;", [0x27E7]), ("RightCeiling;", [0x2309]),
  ("RightArrowLeftArrow;", [0x21C4]), ("RightArrowBar;", [0x21E5]), ("RightArrow;", [0x2192]),
  ("RightAngleBracket;", [0x27E9]), ("Rho;", [0x3A1]), ("Rfr;", [0x211C]),
  ("ReverseUpEquilibrium;", [0x296F]), ("ReverseEquilibrium;", [0x21CB]),
  ("ReverseElement;", [0x220B]), ("Re;", [0x211C]), ("Rcy;", [0x420]), ("Rcedil;", [0x156]),
  ("Rcaron;", [0x158]), ("Rarrtl;", [0x2916]), ("Rarr;", [0x21A0]), ("Rang;", [0x27EB]),
  ("Racute;", [0x154]), ("REG;", [0xAE]), ("REG", [0xAE]), ("RBarr;", [0x2910])]

def capitalS : List (String × List Nat) := [
  ("Supset;", [0x22D1]), ("SupersetEqual;", [0x2287]), ("Superset;", [0x2283]), ("Sup;", [0x22D1]),
  ("Sum;", [0x2211]), ("SuchThat;", [0x220B]), ("SucceedsTilde;", [0x227F]),
  ("SucceedsSlantEqual;", [0x227D]), ("SucceedsEqual;", [0x2AB0]), ("Succeeds;", [0x227B]),
  ("SubsetEqual;", [0x2286]), ("Subset;", [0x22D0]), ("Sub;", [0x22D0]), ("Star;", [0x22C6]),
  ("Sscr;", [0x1D4AE]), ("SquareUnion;", [0x2294]), ("SquareSupersetEqual;", [0x2292]),
  ("SquareSuperset;", [0x2290]), ("SquareSubsetEqual;", [0x2291]), ("SquareSubset;", [0x228F]),
  ("SquareIntersection;", [0x2293]), ("Square;", [0x25A1]), ("Sqrt;", [0x221A]),
  ("Sopf;", [0x1D54A]), ("SmallCircle;", [0x2218]), ("Sigma;", [0x3A3]),
  ("ShortUpArrow;", [0x2191]), ("ShortRightArrow;", [0x2192]), ("ShortLeftArrow;", [0x2190]),
  ("ShortDownArrow;", [0x2193]), ("Sfr;", [0x1D516]), ("Scy;", [0x421]), ("Scirc;", [0x15C]),
  ("Scedil;", [0x15E]), ("Scaron;", [0x160]), ("Sc;", [0x2ABC]), ("Sacute;", [0x15A]),
  ("SOFTcy;", [0x42C]), ("SHcy;", [0x428]), ("SHCHcy;", [0x429])]

def capitalT : List (String × List Nat) := [
  ("Tstrok;", [0x166]), ("Tscr;", [0x1D4AF]), ("TripleDot;", [0x20DB]), ("Topf;", [0x1D54B]),
  ("TildeTilde;", [0x2248]), ("TildeFullEqual;", [0x2245]), ("TildeEqual;", [0x2243]),
  ("Tilde;", [0x223C]), ("ThinSpace;", [0x2009]), ("ThickSpace;", [0x205F, 0x200A]),
  ("Theta;", [0x398]), ("Therefore;", [0x2234]), ("Tfr;", [0x1D517]), ("Tcy;", [0x422]),
  ("Tcedil;", [0x162]), ("Tcaron;", [0x164]), ("Tau;", [0x3A4]), ("Tab;", [0x9]),
  ("TScy;", [0x426]), ("TSHcy;", [0x40B]), ("TRADE;", [0x2122]), ("THORN;", [0xDE]),
  ("THORN", [0xDE])]

def capitalU : List (String × List Nat) := [
  ("Uuml;", [0xDC]), ("Uuml", [0xDC]), ("Utilde;", [0x168]), ("Uscr;", [0x1D4B0]),
  ("Uring;", [0x16E]), ("Upsilon;", [0x3A5]), ("Upsi;", [0x3D2]), ("UpperRightArrow;", [0x2197]),
  ("UpperLeftArrow;", [0x2196]), ("Updownarrow;", [0x21D5]), ("Uparrow;", [0x21D1]),
  ("UpTeeArrow;", [0x21A5]), ("UpTee;", [0x22A5]), ("UpEquilibrium;", [0x296E]),
  ("UpDownArrow;", [0x2195]), ("UpArrowDownArrow;", [0x21C5]), ("UpArrowBar;", [0x2912]),
  ("UpArrow;", [0x2191]), ("Uopf;", [0x1D54C]), ("Uogon;", [0x172]), ("UnionPlus;", [0x228E]),
  ("Union;", [0x22C3]), ("UnderParenthesis;", [0x23DD]), ("UnderBracket;", [0x23B5]),
  ("UnderBrace;", [0x23DF]), ("UnderBar;", [0x5F]), ("Umacr;", [0x16A]), ("Ugrave;", [0xD9]),
  ("Ugrave", [0xD9]), ("Ufr;", [0x1D518]), ("Udblac;", [0x170]), ("Ucy;", [0x423]),
  ("Ucirc;", [0xDB]), ("Ucirc", [0xDB]), ("Ubreve;", [0x16C]), ("Ubrcy;", [0x40E]),
  ("Uarrocir;", [0x2949]), ("Uarr;", [0x219F]), ("Uacute;", [0xDA]), ("Uacute", [0xDA])]

def capitalV : List (String × List Nat) := [
  ("Vvdash;", [0x22AA]), ("Vscr;", [0x1D4B1]), ("Vopf;", [0x1D54D]), ("Vfr;", [0x1D519]),
  ("VeryThinSpace;", [0x200A]), ("VerticalTilde;", [0x2240]), ("VerticalSeparator;", [0x2758]),
  ("VerticalLine;", [0x7C]), ("VerticalBar;", [0x2223]), ("Vert;", [0x2016]), ("Verbar;", [0x2016]),
  ("Vee;", [0x22C1]), ("Vdashl;", [0x2AE6]), ("Vdash;", [0x22A9]), ("Vcy;", [0x412]),
  ("Vbar;", [0x2AEB]), ("VDash;", [0x22AB])]

def capitalW : List (String × List Nat) := [
  ("Wscr;", [0x1D4B2]), ("Wopf;", [0x1D54E]), ("Wfr;", [0x1D51A]), ("Wedge;", [0x22C0]),
  ("Wcirc;", [0x174])]

def capitalX : List (String × List Nat) := [
  ("Xscr;", [0x1D4B3]), ("Xopf;", [0x1D54F]), ("Xi;", [0x39E]), ("Xfr;", [0x1D51B])]

def capitalY : List (String × List Nat) := [
  ("Yuml;", [0x178]), ("Yscr;", [0x1D4B4]), ("Yopf;", [0x1D550]), ("Yfr;", [0x1D51C]),
  ("Ycy;", [0x42B]), ("Ycirc;", [0x176]), ("Yacute;", [0xDD]), ("Yacute", [0xDD]),
  ("YUcy;", [0x42E]), ("YIcy;", [0x407]), ("YAcy;", [0x42F])]

def capitalZ : List (String × List Nat) := [
  ("Zscr;", [0x1D4B5]), ("Zopf;", [0x2124]), ("Zfr;", [0x2128]), ("Zeta;", [0x396]),
  ("ZeroWidthSpace;", [0x200B]), ("Zdot;", [0x17B]), ("Zcy;", [0x417]), ("Zcaron;", [0x17D]),
  ("Zacute;", [0x179]), ("ZHcy;", [0x416])]

def smallA : List (String × List Nat) := [
  ("awint;", [0x2A11]), ("awconint;", [0x2233]), ("auml;", [0xE4]), ("auml", [0xE4]),
  ("atilde;", [0xE3]), ("atilde", [0xE3]), ("asympeq;", [0x224D]), ("asymp;", [0x2248]),
  ("ast;", [0x2A]), ("ascr;", [0x1D4B6]), ("aring;", [0xE5]), ("aring", [0xE5]),
  ("approxeq;", [0x224A]), ("approx;", [0x2248]), ("apos;", [0x27]), ("apid;", [0x224B]),
  ("ape;", [0x224A]), ("apacir;", [0x2A6F]), ("apE;", [0x2A70]), ("ap;", [0x2248]),
  ("aopf;", [0x1D552]), ("aogon;", [0x105]), ("angzarr;", [0x237C]), ("angst;", [0xC5]),
  ("angsph;", [0x2222]), ("angrtvbd;", [0x299D]), ("angrtvb;", [0x22BE]), ("angrt;", [0x221F]),
  ("angmsdah;", [0x29AF]), ("angmsdag;", [0x29AE]), ("angmsdaf;", [0x29AD]),
  ("angmsdae;", [0x29AC]), ("angmsdad;", [0x29AB]), ("angmsdac;", [0x29AA]),
  ("angmsdab;", [0x29A9]), ("angmsdaa;", [0x29A8]), ("angmsd;", [0x2221]), ("angle;", [0x2220]),
  ("ange;", [0x29A4]), ("ang;", [0x2220]), ("andv;", [0x2A5A]), ("andslope;", [0x2A58]),
  ("andd;", [0x2A5C]), ("andand;", [0x2A55]), ("and;", [0x2227]), ("amp;", [0x26]), ("amp", [0x26]),
  ("amalg;", [0x2A3F]), ("amacr;", [0x101]), ("alpha;", [0x3B1]), ("aleph;", [0x2135]),
  ("alefsym;", [0x2135]), ("agrave;", [0xE0]), ("agrave", [0xE0]), ("afr;", [0x1D51E]),
  ("af;", [0x2061]), ("aelig;", [0xE6]), ("aelig", [0xE6]), ("acy;", [0x430]), ("acute;", [0xB4]),
  ("acute", [0xB4]), ("acirc;", [0xE2]), ("acirc", [0xE2]), ("acd;", [0x223F]),
  ("acE;", [0x223E, 0x333]), ("ac;", [0x223E]), ("abreve;", [0x103]), ("aacute;", [0xE1]),
  ("aacute", [0xE1])]

def smallB : List (String × List Nat) := [
  ("bumpeq;", [0x224F]), ("bumpe;", [0x224F]), ("bumpE;", [0x2AAE]), ("bump;", [0x224E]),
  ("bullet;", [0x2022]), ("bull;", [0x2022]), ("bsolhsub;", [0x27C8]), ("bsolb;", [0x29C5]),
  ("bsol;", [0x5C]), ("bsime;", [0x22CD]), ("bsim;", [0x223D]), ("bsemi;", [0x204F]),
  ("bscr;", [0x1D4B7]), ("brvbar;", [0xA6]), ("brvbar", [0xA6]), ("breve;", [0x2D8]),
  ("bprime;", [0x2035]), ("boxvr;", [0x251C]), ("boxvl;", [0x2524]), ("boxvh;", [0x253C]),
  ("boxvR;", [0x255E]), ("boxvL;", [0x2561]), ("boxvH;", [0x256A]), ("boxv;", [0x2502]),
  ("boxur;", [0x2514]), ("boxul;", [0x2518]), ("boxuR;", [0x2558]), ("boxuL;", [0x255B]),
  ("boxtimes;", [0x22A0]), ("boxplus;", [0x229E]), ("boxminus;", [0x229F]), ("boxhu;", [0x2534]),
  ("boxhd;", [0x252C]), ("boxhU;", [0x2568]), ("boxhD;", [0x2565]), ("boxh;", [0x2500]),
  ("boxdr;", [0x250C]), ("boxdl;", [0x2510]), ("boxdR;", [0x2552]), ("boxdL;", [0x2555]),
  ("boxbox;", [0x29C9]), ("boxVr;", [0x255F]), ("boxVl;", [0x2562]), ("boxVh;", [0x256B]),
  ("boxVR;", [0x2560]), ("boxVL;", [0x2563]), ("boxVH;", [0x256C]), ("boxV;", [0x2551]),
  ("boxUr;", [0x2559]), ("boxUl;", [0x255C]), ("boxUR;", [0x255A]), ("boxUL;", [0x255D]),
  ("boxHu;", [0x2567]), ("boxHd;", [0x2564]), ("boxHU;", [0x2569]), ("boxHD;", [0x2566]),
  ("boxH;", [0x2550]), ("boxDr;", [0x2553]), ("boxDl;", [0x2556]), ("boxDR;", [0x2554]),
  ("boxDL;", [0x2557]), ("bowtie;", [0x22C8]), ("bottom;", [0x22A5]), ("bot;", [0x22A5]),
  ("bopf;", [0x1D553]), ("bnot;", [0x2310]), ("bnequiv;", [0x2261, 0x20E5]),
  ("bne;", [0x3D, 0x20E5]), ("block;", [0x2588]), ("blk34;", [0x2593]), ("blk14;", [0x2591]),
  ("blk12;", [0x2592]), ("blank;", [0x2423]), ("blacktriangleright;", [0x25B8]),
  ("blacktriangleleft;", [0x25C2]), ("blacktriangledown;", [0x25BE]), ("blacktriangle;", [0x25B4]),
  ("blacksquare;", [0x25AA]), ("blacklozenge;", [0x29EB]), ("bkarow;", [0x290D]),
  ("bigwedge;", [0x22C0]), ("bigvee;", [0x22C1]), ("biguplus;", [0x2A04]),
  ("bigtriangleup;", [0x25B3]), ("bigtriangledown;", [0x25BD]), ("bigstar;", [0x2605]),
  ("bigsqcup;", [0x2A06]), ("bigotimes;", [0x2A02]), ("bigoplus;", [0x2A01]),
  ("bigodot;", [0x2A00]), ("bigcup;", [0x22C3]), ("bigcirc;", [0x25EF]), ("bigcap;", [0x22C2]),
  ("bfr;", [0x1D51F]), ("between;", [0x226C]), ("beth;", [0x2136]), ("beta;", [0x3B2]),
  ("bernou;", [0x212C]), ("bepsi;", [0x3F6]), ("bemptyv;", [0x29B0]), ("because;", [0x2235]),
  ("becaus;", [0x2235]), ("bdquo;", [0x201E]), ("bcy;", [0x431]), ("bcong;", [0x224C]),
  ("bbrktbrk;", [0x23B6]), ("bbrk;", [0x23B5]), ("barwedge;", [0x2305]), ("barwed;", [0x2305]),
  ("barvee;", [0x22BD]), ("backsimeq;", [0x22CD]), ("backsim;", [0x223D]), ("backprime;", [0x2035]),
  ("backepsilon;", [0x3F6]), ("backcong;", [0x224C]), ("bNot;", [0x2AED])]

def smallC : List (String × List Nat) := [
  ("cylcty;", [0x232D]), ("cwint;", [0x2231]), ("cwconint;", [0x2232]), ("cuwed;", [0x22CF]),
  ("cuvee;", [0x22CE]), ("curvearrowright;", [0x21B7]), ("curvearrowleft;", [0x21B6]),
  ("curren;", [0xA4]), ("curren", [0xA4]), ("curlywedge;", [0x22CF]), ("curlyvee;", [0x22CE]),
  ("curlyeqsucc;", [0x22DF]), ("curlyeqprec;", [0x22DE]), ("curarrm;", [0x293C]),
  ("curarr;", [0x21B7]), ("cups;", [0x222A, 0xFE00]), ("cupor;", [0x2A45]), ("cupdot;", [0x228D]),
  ("cupcup;", [0x2A4A]), ("cupcap;", [0x2A46]), ("cupbrcap;", [0x2A48]), ("cup;", [0x222A]),
  ("cularrp;", [0x293D]), ("cularr;", [0x21B6]), ("cuesc;", [0x22DF]), ("cuepr;", [0x22DE]),
  ("cudarrr;", [0x2935]), ("cudarrl;", [0x2938]), ("ctdot;", [0x22EF]), ("csupe;", [0x2AD2]),
  ("csup;", [0x2AD0]), ("csube;", [0x2AD1]), ("csub;", [0x2ACF]), ("cscr;", [0x1D4B8]),
  ("cross;", [0x2717]), ("crarr;", [0x21B5]), ("copysr;", [0x2117]), ("copy;", [0xA9]),
  ("copy", [0xA9]), ("coprod;", [0x2210]), ("copf;", [0x1D554]), ("conint;", [0x222E]),
  ("congdot;", [0x2A6D]), ("cong;", [0x2245]), ("complexes;", [0x2102]), ("complement;", [0x2201]),
  ("compfn;", [0x2218]), ("comp;", [0x2201]), ("commat;", [0x40]), ("comma;", [0x2C]),
  ("coloneq;", [0x2254]), ("colone;", [0x2254]), ("colon;", [0x3A]), ("clubsuit;", [0x2663]),
  ("clubs;", [0x2663]), ("cirscir;", [0x29C2]), ("cirmid;", [0x2AEF]), ("cirfnint;", [0x2A10]),
  ("cire;", [0x2257]), ("circleddash;", [0x229D]), ("circledcirc;", [0x229A]),
  ("circledast;", [0x229B]), ("circledS;", [0x24C8]), ("circledR;", [0xAE]),
  ("circlearrowright;", [0x21BB]), ("circlearrowleft;", [0x21BA]), ("circeq;", [0x2257]),
  ("circ;", [0x2C6]), ("cirE;", [0x29C3]), ("cir;", [0x25CB]), ("chi;", [0x3C7]),
  ("checkmark;", [0x2713]), ("check;", [0x2713]), ("chcy;", [0x447]), ("cfr;", [0x1D520]),
  ("centerdot;", [0xB7]), ("cent;", [0xA2]), ("cent", [0xA2]), ("cemptyv;", [0x29B2]),
  ("cedil;", [0xB8]), ("cedil", [0xB8]), ("cdot;", [0x10B]), ("ccupssm;", [0x2A50]),
  ("ccups;", [0x2A4C]), ("ccirc;", [0x109]), ("ccedil;", [0xE7]), ("ccedil", [0xE7]),
  ("ccaron;", [0x10D]), ("ccaps;", [0x2A4D]), ("caron;", [0x2C7]), ("caret;", [0x2041]),
  ("caps;", [0x2229, 0xFE00]), ("capdot;", [0x2A40]), ("capcup;", [0x2A47]), ("capcap;", [0x2A4B]),
  ("capbrcup;", [0x2A49]), ("capand;", [0x2A44]), ("cap;", [0x2229]), ("cacute;", [0x107])]

def smallD : List (String × List Nat) := [
  ("dzigrarr;", [0x27FF]), ("dzcy;", [0x45F]), ("dwangle;", [0x29A6]), ("duhar;", [0x296F]),
  ("duarr;", [0x21F5]), ("dtrif;", [0x25BE]), ("dtri;", [0x25BF]), ("dtdot;", [0x22F1]),
  ("dstrok;", [0x111]), ("dsol;", [0x29F6]), ("dscy;", [0x455]), ("dscr;", [0x1D4B9]),
  ("drcrop;", [0x230C]), ("drcorn;", [0x231F]), ("drbkarow;", [0x2910]),
  ("downharpoonright;", [0x21C2]), ("downharpoonleft;", [0x21C3]), ("downdownarrows;", [0x21CA]),
  ("downarrow;", [0x2193]), ("doublebarwedge;", [0x2306]), ("dotsquare;", [0x22A1]),
  ("dotplus;", [0x2214]), ("dotminus;", [0x2238]), ("doteqdot;", [0x2251]), ("doteq;", [0x2250]),
  ("dot;", [0x2D9]), ("dopf;", [0x1D555]), ("dollar;", [0x24]), ("dlcrop;", [0x230D]),
  ("dlcorn;", [0x231E]), ("djcy;", [0x452]), ("divonx;", [0x22C7]), ("divideontimes;", [0x22C7]),
  ("divide;", [0xF7]), ("divide", [0xF7]), ("div;", [0xF7]), ("disin;", [0x22F2]),
  ("digamma;", [0x3DD]), ("die;", [0xA8]), ("diams;", [0x2666]), ("diamondsuit;", [0x2666]),
  ("diamond;", [0x22C4]), ("diam;", [0x22C4]), ("dharr;", [0x21C2]), ("dharl;", [0x21C3]),
  ("dfr;", [0x1D521]), ("dfisht;", [0x297F]), ("demptyv;", [0x29B1]), ("delta;", [0x3B4]),
  ("deg;", [0xB0]), ("deg", [0xB0]), ("ddotseq;", [0x2A77]), ("ddarr;", [0x21CA]),
  ("ddagger;", [0x2021]), ("dd;", [0x2146]), ("dcy;", [0x434]), ("dcaron;", [0x10F]),
  ("dblac;", [0x2DD]), ("dbkarow;", [0x290F]), ("dashv;", [0x22A3]), ("dash;", [0x2010]),
  ("darr;", [0x2193]), ("daleth;", [0x2138]), ("dagger;", [0x2020]), ("dHar;", [0x2965]),
  ("dArr;", [0x21D3])]

def smallE : List (String × List Nat) := [
  ("exponentiale;", [0x2147]), ("expectation;", [0x2130]), ("exist;", [0x2203]), ("excl;", [0x21]),
  ("euro;", [0x20AC]), ("euml;", [0xEB]), ("euml", [0xEB]), ("eth;", [0xF0]), ("eth", [0xF0]),
  ("eta;", [0x3B7]), ("esim;", [0x2242]), ("esdot;", [0x2250]), ("escr;", [0x212F]),
  ("erarr;", [0x2971]), ("erDot;", [0x2253]), ("eqvparsl;", [0x29E5]), ("equivDD;", [0x2A78]),
  ("equiv;", [0x2261]), ("equest;", [0x225F]), ("equals;", [0x3D]), ("eqslantless;", [0x2A95]),
  ("eqslantgtr;", [0x2A96]), ("eqsim;", [0x2242]), ("eqcolon;", [0x2255]), ("eqcirc;", [0x2256]),
  ("epsiv;", [0x3F5]), ("epsilon;", [0x3B5]), ("epsi;", [0x3B5]), ("eplus;", [0x2A71]),
  ("eparsl;", [0x29E3]), ("epar;", [0x22D5]), ("eopf;", [0x1D556]), ("eogon;", [0x119]),
  ("ensp;", [0x2002]), ("eng;", [0x14B]), ("emsp;", [0x2003]), ("emsp14;", [0x2005]),
  ("emsp13;", [0x2004]), ("emptyv;", [0x2205]), ("emptyset;", [0x2205]), ("empty;", [0x2205]),
  ("emacr;", [0x113]), ("elsdot;", [0x2A97]), ("els;", [0x2A95]), ("ell;", [0x2113]),
  ("elinters;", [0x23E7]), ("el;", [0x2A99]), ("egsdot;", [0x2A98]), ("egs;", [0x2A96]),
  ("egrave;", [0xE8]), ("egrave", [0xE8]), ("eg;", [0x2A9A]), ("efr;", [0x1D522]),
  ("efDot;", [0x2252]), ("ee;", [0x2147]), ("edot;", [0x117]), ("ecy;", [0x44D]),
  ("ecolon;", [0x2255]), ("ecirc;", [0xEA]), ("ecirc", [0xEA]), ("ecir;", [0x2256]),
  ("ecaron;", [0x11B]), ("easter;", [0x2A6E]), ("eacute;", [0xE9]), ("eacute", [0xE9]),
  ("eDot;", [0x2251]), ("eDDot;", [0x2A77])]

def smallF : List (String × List Nat) := [
  ("fscr;", [0x1D4BB]), ("frown;", [0x2322]), ("frasl;", [0x2044]), ("frac78;", [0x215E]),
  ("frac58;", [0x215D]), ("frac56;", [0x215A]), ("frac45;", [0x2158]), ("frac38;", [0x215C]),
  ("frac35;", [0x2157]), ("frac34;", [0xBE]), ("frac34", [0xBE]), ("frac25;", [0x2156]),
  ("frac23;", [0x2154]), ("frac18;", [0x215B]), ("frac16;", [0x2159]), ("frac15;", [0x2155]),
  ("frac14;", [0xBC]), ("frac14", [0xBC]), ("frac13;", [0x2153]), ("frac12;", [0xBD]),
  ("frac12", [0xBD]), ("fpartint;", [0x2A0D]), ("forkv;", [0x2AD9]), ("fork;", [0x22D4]),
  ("forall;", [0x2200]), ("fopf;", [0x1D557]), ("fnof;", [0x192]), ("fltns;", [0x25B1]),
  ("fllig;", [0xFB02]), ("flat;", [0x266D]), ("fjlig;", [0x66, 0x6A]), ("filig;", [0xFB01]),
  ("ffr;", [0x1D523]), ("ffllig;", [0xFB04]), ("fflig;", [0xFB00]), ("ffilig;", [0xFB03]),
  ("female;", [0x2640]), ("fcy;", [0x444]), ("fallingdotseq;", [0x2252])]

def smallG : List (String × List Nat) := [
  ("gvnE;", [0x2269, 0xFE00]), ("gvertneqq;", [0x2269, 0xFE00]), ("gtrsim;", [0x2273]),
  ("gtrless;", [0x2277]), ("gtreqqless;", [0x2A8C]), ("gtreqless;", [0x22DB]),
  ("gtrdot;", [0x22D7]), ("gtrarr;", [0x2978]), ("gtrapprox;", [0x2A86]), ("gtquest;", [0x2A7C]),
  ("gtlPar;", [0x2995]), ("gtdot;", [0x22D7]), ("gtcir;", [0x2A7A]), ("gtcc;", [0x2AA7]),
  ("gt;", [0x3E]), ("gt", [0x3E]), ("gsiml;", [0x2A90]), ("gsime;", [0x2A8E]), ("gsim;", [0x2273]),
  ("gscr;", [0x210A]), ("grave;", [0x60]), ("gopf;", [0x1D558]), ("gnsim;", [0x22E7]),
  ("gneqq;", [0x2269]), ("gneq;", [0x2A88]), ("gne;", [0x2A88]), ("gnapprox;", [0x2A8A]),
  ("gnap;", [0x2A8A]), ("gnE;", [0x2269]), ("glj;", [0x2AA4]), ("gla;", [0x2AA5]),
  ("glE;", [0x2A92]), ("gl;", [0x2277]), ("gjcy;", [0x453]), ("gimel;", [0x2137]),
  ("ggg;", [0x22D9]), ("gg;", [0x226B]), ("gfr;", [0x1D524]), ("gesles;", [0x2A94]),
  ("gesl;", [0x22DB, 0xFE00]), ("gesdotol;", [0x2A84]), ("gesdoto;", [0x2A82]),
  ("gesdot;", [0x2A80]), ("gescc;", [0x2AA9]), ("ges;", [0x2A7E]), ("geqslant;", [0x2A7E]),
  ("geqq;", [0x2267]), ("geq;", [0x2265]), ("gel;", [0x22DB]), ("ge;", [0x2265]),
  ("gdot;", [0x121]), ("gcy;", [0x433]), ("gcirc;", [0x11D]), ("gbreve;", [0x11F]),
  ("gap;", [0x2A86]), ("gammad;", [0x3DD]), ("gamma;", [0x3B3]), ("gacute;", [0x1F5]),
  ("gEl;", [0x2A8C]), ("gE;", [0x2267])]

def smallH : List (String × List Nat) := [
  ("hyphen;", [0x2010]), ("hybull;", [0x2043]), ("hstrok;", [0x127]), ("hslash;", [0x210F]),
  ("hscr;", [0x1D4BD]), ("horbar;", [0x2015]), ("hopf;", [0x1D559]), ("hookrightarrow;", [0x21AA]),
  ("hookleftarrow;", [0x21A9]), ("homtht;", [0x223B]), ("hoarr;", [0x21FF]),
  ("hkswarow;", [0x2926]), ("hksearow;", [0x2925]), ("hfr;", [0x1D525]), ("hercon;", [0x22B9]),
  ("hellip;", [0x2026]), ("heartsuit;", [0x2665]), ("hearts;", [0x2665]), ("hcirc;", [0x125]),
  ("hbar;", [0x210F]), ("harrw;", [0x21AD]), ("harrcir;", [0x2948]), ("harr;", [0x2194]),
  ("hardcy;", [0x44A]), ("hamilt;", [0x210B]), ("half;", [0xBD]), ("hairsp;", [0x200A]),
  ("hArr;", [0x21D4])]

def smallI : List (String × List Nat) := [
  ("iuml;", [0xEF]), ("iuml", [0xEF]), ("iukcy;", [0x456]), ("itilde;", [0x129]), ("it;", [0x2062]),
  ("isinv;", [0x2208]), ("isinsv;", [0x22F3]), ("isins;", [0x22F4]), ("isindot;", [0x22F5]),
  ("isinE;", [0x22F9]), ("isin;", [0x2208]), ("iscr;", [0x1D4BE]), ("iquest;", [0xBF]),
  ("iquest", [0xBF]), ("iprod;", [0x2A3C]), ("iota;", [0x3B9]), ("iopf;", [0x1D55A]),
  ("iogon;", [0x12F]), ("iocy;", [0x451]), ("intprod;", [0x2A3C]), ("intlarhk;", [0x2A17]),
  ("intercal;", [0x22BA]), ("integers;", [0x2124]), ("intcal;", [0x22BA]), ("int;", [0x222B]),
  ("inodot;", [0x131]), ("infintie;", [0x29DD]), ("infin;", [0x221E]), ("incare;", [0x2105]),
  ("in;", [0x2208]), ("imped;", [0x1B5]), ("imof;", [0x22B7]), ("imath;", [0x131]),
  ("imagpart;", [0x2111]), ("imagline;", [0x2110]), ("image;", [0x2111]), ("imacr;", [0x12B]),
  ("ijlig;", [0x133]), ("iiota;", [0x2129]), ("iinfin;", [0x29DC]), ("iiint;", [0x222D]),
  ("iiiint;", [0x2A0C]), ("ii;", [0x2148]), ("igrave;", [0xEC]), ("igrave", [0xEC]),
  ("ifr;", [0x1D526]), ("iff;", [0x21D4]), ("iexcl;", [0xA1]), ("iexcl", [0xA1]),
  ("iecy;", [0x435]), ("icy;", [0x438]), ("icirc;", [0xEE]), ("icirc", [0xEE]), ("ic;", [0x2063]),
  ("iacute;", [0xED]), ("iacute", [0xED])]

def smallJ : List (String × List Nat) := [
  ("jukcy;", [0x454]), ("jsercy;", [0x458]), ("jscr;", [0x1D4BF]), ("jopf;", [0x1D55B]),
  ("jmath;", [0x237]), ("jfr;", [0x1D527]), ("jcy;", [0x439]), ("jcirc;", [0x135])]

def smallK : List (String × List Nat) := [
  ("kscr;", [0x1D4C0]), ("kopf;", [0x1D55C]), ("kjcy;", [0x45C]), ("khcy;", [0x445]),
  ("kgreen;", [0x138]), ("kfr;", [0x1D528]), ("kcy;", [0x43A]), ("kcedil;", [0x137]),
  ("kappav;", [0x3F0]), ("kappa;", [0x3BA])]

def smallL : List (String × List Nat) := [
  ("lvnE;", [0x2268, 0xFE00]), ("lvertneqq;", [0x2268, 0xFE00]), ("luruhar;", [0x2966]),
  ("lurdshar;", [0x294A]), ("ltrif;", [0x25C2]), ("ltrie;", [0x22B4]), ("ltri;", [0x25C3]),
  ("ltrPar;", [0x2996]), ("ltquest;", [0x2A7B]), ("ltlarr;", [0x2976]), ("ltimes;", [0x22C9]),
  ("lthree;", [0x22CB]), ("ltdot;", [0x22D6]), ("ltcir;", [0x2A79]), ("ltcc;", [0x2AA6]),
  ("lt;", [0x3C]), ("lt", [0x3C]), ("lstrok;", [0x142]), ("lsquor;", [0x201A]),
  ("lsquo;", [0x2018]), ("lsqb;", [0x5B]), ("lsimg;", [0x2A8F]), ("lsime;", [0x2A8D]),
  ("lsim;", [0x2272]), ("lsh;", [0x21B0]), ("lscr;", [0x1D4C1]), ("lsaquo;", [0x2039]),
  ("lrtri;", [0x22BF]), ("lrm;", [0x200E]), ("lrhard;", [0x296D]), ("lrhar;", [0x21CB]),
  ("lrcorner;", [0x231F]), ("lrarr;", [0x21C6]), ("lparlt;", [0x2993]), ("lpar;", [0x28]),
  ("lozf;", [0x29EB]), ("lozenge;", [0x25CA]), ("loz;", [0x25CA]), ("lowbar;", [0x5F]),
  ("lowast;", [0x2217]), ("lotimes;", [0x2A34]), ("loplus;", [0x2A2D]), ("lopf;", [0x1D55D]),
  ("lopar;", [0x2985]), ("looparrowright;", [0x21AC]), ("looparrowleft;", [0x21AB]),
  ("longrightarrow;", [0x27F6]), ("longmapsto;", [0x27FC]), ("longleftrightarrow;", [0x27F7]),
  ("longleftarrow;", [0x27F5]), ("lobrk;", [0x27E6]), ("loarr;", [0x21FD]), ("loang;", [0x27EC]),
  ("lnsim;", [0x22E6]), ("lneqq;", [0x2268]), ("lneq;", [0x2A87]), ("lne;", [0x2A87]),
  ("lnapprox;", [0x2A89]), ("lnap;", [0x2A89]), ("lnE;", [0x2268]), ("lmoustache;", [0x23B0]),
  ("lmoust;", [0x23B0]), ("lmidot;", [0x140]), ("lltri;", [0x25FA]), ("llhard;", [0x296B]),
  ("llcorner;", [0x231E]), ("llarr;", [0x21C7]), ("ll;", [0x226A]), ("ljcy;", [0x459]),
  ("lhblk;", [0x2584]), ("lharul;", [0x296A]), ("lharu;", [0x21BC]), ("lhard;", [0x21BD]),
  ("lgE;", [0x2A91]), ("lg;", [0x2276]), ("lfr;", [0x1D529]), ("lfloor;", [0x230A]),
  ("lfisht;", [0x297C]), ("lesssim;", [0x2272]), ("lessgtr;", [0x2276]), ("lesseqqgtr;", [0x2A8B]),
  ("lesseqgtr;", [0x22DA]), ("lessdot;", [0x22D6]), ("lessapprox;", [0x2A85]),
  ("lesges;", [0x2A93]), ("lesg;", [0x22DA, 0xFE00]), ("lesdotor;", [0x2A83]),
  ("lesdoto;", [0x2A81]), ("lesdot;", [0x2A7F]), ("lescc;", [0x2AA8]), ("les;", [0x2A7D]),
  ("leqslant;", [0x2A7D]), ("leqq;", [0x2266]), ("leq;", [0x2264]), ("leg;", [0x22DA]),
  ("leftthreetimes;", [0x22CB]), ("leftrightsquigarrow;", [0x21AD]),
  ("leftrightharpoons;", [0x21CB]), ("leftrightarrows;", [0x21C6]), ("leftrightarrow;", [0x2194]),
  ("leftleftarrows;", [0x21C7]), ("leftharpoonup;", [0x21BC]), ("leftharpoondown;", [0x21BD]),
  ("leftarrowtail;", [0x21A2]), ("leftarrow;", [0x2190]), ("le;", [0x2264]), ("ldsh;", [0x21B2]),
  ("ldrushar;", [0x294B]), ("ldrdhar;", [0x2967]), ("ldquor;", [0x201E]), ("ldquo;", [0x201C]),
  ("ldca;", [0x2936]), ("lcy;", [0x43B]), ("lcub;", [0x7B]), ("lceil;", [0x2308]),
  ("lcedil;", [0x13C]), ("lcaron;", [0x13E]), ("lbrkslu;", [0x298D]), ("lbrksld;", [0x298F]),
  ("lbrke;", [0x298B]), ("lbrack;", [0x5B]), ("lbrace;", [0x7B]), ("lbbrk;", [0x2772]),
  ("lbarr;", [0x290C]), ("lates;", [0x2AAD, 0xFE00]), ("late;", [0x2AAD]), ("latail;", [0x2919]),
  ("lat;", [0x2AAB]), ("larrtl;", [0x21A2]), ("larrsim;", [0x2973]), ("larrpl;", [0x2939]),
  ("larrlp;", [0x21AB]), ("larrhk;", [0x21A9]), ("larrfs;", [0x291D]), ("larrbfs;", [0x291F]),
  ("larrb;", [0x21E4]), ("larr;", [0x2190]), ("laquo;", [0xAB]), ("laquo", [0xAB]),
  ("lap;", [0x2A85]), ("langle;", [0x27E8]), ("langd;", [0x2991]), ("lang;", [0x27E8]),
  ("lambda;", [0x3BB]), ("lagran;", [0x2112]), ("laemptyv;", [0x29B4]), ("lacute;", [0x13A]),
  ("lHar;", [0x2962]), ("lEg;", [0x2A8B]), ("lE;", [0x2266]), ("lBarr;", [0x290E]),
  ("lAtail;", [0x291B]), ("lArr;", [0x21D0]), ("lAarr;", [0x21DA])]

def smallM : List (String × List Nat) := [
  ("mumap;", [0x22B8]), ("multimap;", [0x22B8]), ("mu;", [0x3BC]), ("mstpos;", [0x223E]),
  ("mscr;", [0x1D4C2]), ("mp;", [0x2213]), ("mopf;", [0x1D55E]), ("models;", [0x22A7]),
  ("mnplus;", [0x2213]), ("mldr;", [0x2026]), ("mlcp;", [0x2ADB]), ("minusdu;", [0x2A2A]),
  ("minusd;", [0x2238]), ("minusb;", [0x229F]), ("minus;", [0x2212]), ("middot;", [0xB7]),
  ("middot", [0xB7]), ("midcir;", [0x2AF0]), ("midast;", [0x2A]), ("mid;", [0x2223]),
  ("micro;", [0xB5]), ("micro", [0xB5]), ("mho;", [0x2127]), ("mfr;", [0x1D52A]),
  ("measuredangle;", [0x2221]), ("mdash;", [0x2014]), ("mcy;", [0x43C]), ("mcomma;", [0x2A29]),
  ("marker;", [0x25AE]), ("mapstoup;", [0x21A5]), ("mapstoleft;", [0x21A4]),
  ("mapstodown;", [0x21A7]), ("mapsto;", [0x21A6]), ("map;", [0x21A6]), ("maltese;", [0x2720]),
  ("malt;", [0x2720]), ("male;", [0x2642]), ("macr;", [0xAF]), ("macr", [0xAF]),
  ("mDDot;", [0x223A])]

def smallN : List (String × List Nat) := [
  ("nwnear;", [0x2927]), ("nwarrow;", [0x2196]), ("nwarr;", [0x2196]), ("nwarhk;", [0x2923]),
  ("nwArr;", [0x21D6]), ("nvsim;", [0x223C, 0x20D2]), ("nvrtrie;", [0x22B5, 0x20D2]),
  ("nvrArr;", [0x2903]), ("nvltrie;", [0x22B4, 0x20D2]), ("nvlt;", [0x3C, 0x20D2]),
  ("nvle;", [0x2264, 0x20D2]), ("nvlArr;", [0x2902]), ("nvinfin;", [0x29DE]),
  ("nvgt;", [0x3E, 0x20D2]), ("nvge;", [0x2265, 0x20D2]), ("nvdash;", [0x22AC]),
  ("nvap;", [0x224D, 0x20D2]), ("nvHarr;", [0x2904]), ("nvDash;", [0x22AD]), ("numsp;", [0x2007]),
  ("numero;", [0x2116]), ("num;", [0x23]), ("nu;", [0x3BD]), ("ntrianglerighteq;", [0x22ED]),
  ("ntriangleright;", [0x22EB]), ("ntrianglelefteq;", [0x22EC]), ("ntriangleleft;", [0x22EA]),
  ("ntlg;", [0x2278]), ("ntilde;", [0xF1]), ("ntilde", [0xF1]), ("ntgl;", [0x2279]),
  ("nsupseteqq;", [0x2AC6, 0x338]), ("nsupseteq;", [0x2289]), ("nsupset;", [0x2283, 0x20D2]),
  ("nsupe;", [0x2289]), ("nsupE;", [0x2AC6, 0x338]), ("nsup;", [0x2285]),
  ("nsucceq;", [0x2AB0, 0x338]), ("nsucc;", [0x2281]), ("nsubseteqq;", [0x2AC5, 0x338]),
  ("nsubseteq;", [0x2288]), ("nsubset;", [0x2282, 0x20D2]), ("nsube;", [0x2288]),
  ("nsubE;", [0x2AC5, 0x338]), ("nsub;", [0x2284]), ("nsqsupe;", [0x22E3]), ("nsqsube;", [0x22E2]),
  ("nspar;", [0x2226]), ("nsmid;", [0x2224]), ("nsimeq;", [0x2244]), ("nsime;", [0x2244]),
  ("nsim;", [0x2241]), ("nshortparallel;", [0x2226]), ("nshortmid;", [0x2224]),
  ("nscr;", [0x1D4C3]), ("nsce;", [0x2AB0, 0x338]), ("nsccue;", [0x22E1]), ("nsc;", [0x2281]),
  ("nrtrie;", [0x22ED]), ("nrtri;", [0x22EB]), ("nrightarrow;", [0x219B]),
  ("nrarrw;", [0x219D, 0x338]), ("nrarrc;", [0x2933, 0x338]), ("nrarr;", [0x219B]),
  ("nrArr;", [0x21CF]), ("npreceq;", [0x2AAF, 0x338]), ("nprec;", [0x2280]),
  ("npre;", [0x2AAF, 0x338]), ("nprcue;", [0x22E0]), ("npr;", [0x2280]), ("npolint;", [0x2A14]),
  ("npart;", [0x2202, 0x338]), ("nparsl;", [0x2AFD, 0x20E5]), ("nparallel;", [0x2226]),
  ("npar;", [0x2226]), ("notnivc;", [0x22FD]), ("notnivb;", [0x22FE]), ("notniva;", [0x220C]),
  ("notni;", [0x220C]), ("notinvc;", [0x22F6]), ("notinvb;", [0x22F7]), ("notinva;", [0x2209]),
  ("notindot;", [0x22F5, 0x338]), ("notinE;", [0x22F9, 0x338]), ("notin;", [0x2209]),
  ("not;", [0xAC]), ("not", [0xAC]), ("nopf;", [0x1D55F]), ("nmid;", [0x2224]),
  ("nltrie;", [0x22EC]), ("nltri;", [0x22EA]), ("nlt;", [0x226E]), ("nlsim;", [0x2274]),
  ("nless;", [0x226E]), ("nles;", [0x2A7D, 0x338]), ("nleqslant;", [0x2A7D, 0x338]),
  ("nleqq;", [0x2266, 0x338]), ("nleq;", [0x2270]), ("nleftrightarrow;", [0x21AE]),
  ("nleftarrow;", [0x219A]), ("nle;", [0x2270]), ("nldr;", [0x2025]), ("nlarr;", [0x219A]),
  ("nlE;", [0x2266, 0x338]), ("nlArr;", [0x21CD]), ("njcy;", [0x45A]), ("niv;", [0x220B]),
  ("nisd;", [0x22FA]), ("nis;", [0x22FC]), ("ni;", [0x220B]), ("nhpar;", [0x2AF2]),
  ("nharr;", [0x21AE]), ("nhArr;", [0x21CE]), ("ngtr;", [0x226F]), ("ngt;", [0x226F]),
  ("ngsim;", [0x2275]), ("nges;", [0x2A7E, 0x338]), ("ngeqslant;", [0x2A7E, 0x338]),
  ("ngeqq;", [0x2267, 0x338]), ("ngeq;", [0x2271]), ("nge;", [0x2271]), ("ngE;", [0x2267, 0x338]),
  ("nfr;", [0x1D52B]), ("nexists;", [0x2204]), ("nexist;", [0x2204]), ("nesim;", [0x2242, 0x338]),
  ("nesear;", [0x2928]), ("nequiv;", [0x2262]), ("nedot;", [0x2250, 0x338]), ("nearrow;", [0x2197]),
  ("nearr;", [0x2197]), ("nearhk;", [0x2924]), ("neArr;", [0x21D7]), ("ne;", [0x2260]),
  ("ndash;", [0x2013]), ("ncy;", [0x43D]), ("ncup;", [0x2A42]), ("ncongdot;", [0x2A6D, 0x338]),
  ("ncong;", [0x2247]), ("ncedil;", [0x146]), ("ncaron;", [0x148]), ("ncap;", [0x2A43]),
  ("nbumpe;", [0x224F, 0x338]), ("nbump;", [0x224E, 0x338]), ("nbsp;", [0xA0]), ("nbsp", [0xA0]),
  ("naturals;", [0x2115]), ("natural;", [0x266E]), ("natur;", [0x266E]), ("napprox;", [0x2249]),
  ("napos;", [0x149]), ("napid;", [0x224B, 0x338]), ("napE;", [0x2A70, 0x338]), ("nap;", [0x2249]),
  ("nang;", [0x2220, 0x20D2]), ("nacute;", [0x144]), ("nabla;", [0x2207]), ("nVdash;", [0x22AE]),
  ("nVDash;", [0x22AF]), ("nRightarrow;", [0x21CF]), ("nLtv;", [0x226A, 0x338]),
  ("nLt;", [0x226A, 0x20D2]), ("nLl;", [0x22D8, 0x338]), ("nLeftrightarrow;", [0x21CE]),
  ("nLeftarrow;", [0x21CD]), ("nGtv;", [0x226B, 0x338]), ("nGt;", [0x226B, 0x20D2]),
  ("nGg;", [0x22D9, 0x338])]

def smallO : List (String × List Nat) := [
  ("ovbar;", [0x233D]), ("ouml;", [0xF6]), ("ouml", [0xF6]), ("otimesas;", [0x2A36]),
  ("otimes;", [0x2297]), ("otilde;", [0xF5]), ("otilde", [0xF5]), ("osol;", [0x2298]),
  ("oslash;", [0xF8]), ("oslash", [0xF8]), ("oscr;", [0x2134]), ("orv;", [0x2A5B]),
  ("orslope;", [0x2A57]), ("oror;", [0x2A56]), ("origof;", [0x22B6]), ("ordm;", [0xBA]),
  ("ordm", [0xBA]), ("ordf;", [0xAA]), ("ordf", [0xAA]), ("orderof;", [0x2134]),
  ("order;", [0x2134]), ("ord;", [0x2A5D]), ("orarr;", [0x21BB]), ("or;", [0x2228]),
  ("oplus;", [0x2295]), ("operp;", [0x29B9]), ("opar;", [0x29B7]), ("oopf;", [0x1D560]),
  ("ominus;", [0x2296]), ("omid;", [0x29B6]), ("omicron;", [0x3BF]), ("omega;", [0x3C9]),
  ("omacr;", [0x14D]), ("olt;", [0x29C0]), ("oline;", [0x203E]), ("olcross;", [0x29BB]),
  ("olcir;", [0x29BE]), ("olarr;", [0x21BA]), ("oint;", [0x222E]), ("ohm;", [0x3A9]),
  ("ohbar;", [0x29B5]), ("ogt;", [0x29C1]), ("ograve;", [0xF2]), ("ograve", [0xF2]),
  ("ogon;", [0x2DB]), ("ofr;", [0x1D52C]), ("ofcir;", [0x29BF]), ("oelig;", [0x153]),
  ("odsold;", [0x29BC]), ("odot;", [0x2299]), ("odiv;", [0x2A38]), ("odblac;", [0x151]),
  ("odash;", [0x229D]), ("ocy;", [0x43E]), ("ocirc;", [0xF4]), ("ocirc", [0xF4]),
  ("ocir;", [0x229A]), ("oast;", [0x229B]), ("oacute;", [0xF3]), ("oacute", [0xF3]),
  ("oS;", [0x24C8])]

def smallP : List (String × List Nat) := [
  ("puncsp;", [0x2008]), ("psi;", [0x3C8]), ("pscr;", [0x1D4C5]), ("prurel;", [0x22B0]),
  ("prsim;", [0x227E]), ("propto;", [0x221D]), ("prop;", [0x221D]), ("profsurf;", [0x2313]),
  ("profline;", [0x2312]), ("profalar;", [0x232E]), ("prod;", [0x220F]), ("prnsim;", [0x22E8]),
  ("prnap;", [0x2AB9]), ("prnE;", [0x2AB5]), ("primes;", [0x2119]), ("prime;", [0x2032]),
  ("precsim;", [0x227E]), ("precnsim;", [0x22E8]), ("precneqq;", [0x2AB5]),
  ("precnapprox;", [0x2AB9]), ("preceq;", [0x2AAF]), ("preccurlyeq;", [0x227C]),
  ("precapprox;", [0x2AB7]), ("prec;", [0x227A]), ("pre;", [0x2AAF]), ("prcue;", [0x227C]),
  ("prap;", [0x2AB7]), ("prE;", [0x2AB3]), ("pr;", [0x227A]), ("pound;", [0xA3]), ("pound", [0xA3]),
  ("popf;", [0x1D561]), ("pointint;", [0x2A15]), ("pm;", [0xB1]), ("plustwo;", [0x2A27]),
  ("plussim;", [0x2A26]), ("plusmn;", [0xB1]), ("plusmn", [0xB1]), ("pluse;", [0x2A72]),
  ("plusdu;", [0x2A25]), ("plusdo;", [0x2214]), ("pluscir;", [0x2A22]), ("plusb;", [0x229E]),
  ("plusacir;", [0x2A23]), ("plus;", [0x2B]), ("plankv;", [0x210F]), ("planckh;", [0x210E]),
  ("planck;", [0x210F]), ("piv;", [0x3D6]), ("pitchfork;", [0x22D4]), ("pi;", [0x3C0]),
  ("phone;", [0x260E]), ("phmmat;", [0x2133]), ("phiv;", [0x3D5]), ("phi;", [0x3C6]),
  ("pfr;", [0x1D52D]), ("pertenk;", [0x2031]), ("perp;", [0x22A5]), ("permil;", [0x2030]),
  ("period;", [0x2E]), ("percnt;", [0x25]), ("pcy;", [0x43F]), ("part;", [0x2202]),
  ("parsl;", [0x2AFD]), ("parsim;", [0x2AF3]), ("parallel;", [0x2225]), ("para;", [0xB6]),
  ("para", [0xB6]), ("par;", [0x2225])]

def smallQ : List (String × List Nat) := [
  ("quot;", [0x22]), ("quot", [0x22]), ("questeq;", [0x225F]), ("quest;", [0x3F]),
  ("quatint;", [0x2A16]), ("quaternions;", [0x210D]), ("qscr;", [0x1D4C6]), ("qprime;", [0x2057]),
  ("qopf;", [0x1D562]), ("qint;", [0x2A0C]), ("qfr;", [0x1D52E])]

def smallR : List (String × List Nat) := [
  ("rx;", [0x211E]), ("ruluhar;", [0x2968]), ("rtriltri;", [0x29CE]), ("rtrif;", [0x25B8]),
  ("rtrie;", [0x22B5]), ("rtri;", [0x25B9]), ("rtimes;", [0x22CA]), ("rthree;", [0x22CC]),
  ("rsquor;", [0x2019]), ("rsquo;", [0x2019]), ("rsqb;", [0x5D]), ("rsh;", [0x21B1]),
  ("rscr;", [0x1D4C7]), ("rsaquo;", [0x203A]), ("rrarr;", [0x21C9]), ("rppolint;", [0x2A12]),
  ("rpargt;", [0x2994]), ("rpar;", [0x29]), ("rotimes;", [0x2A35]), ("roplus;", [0x2A2E]),
  ("ropf;", [0x1D563]), ("ropar;", [0x2986]), ("robrk;", [0x27E7]), ("roarr;", [0x21FE]),
  ("roang;", [0x27ED]), ("rnmid;", [0x2AEE]), ("rmoustache;", [0x23B1]), ("rmoust;", [0x23B1]),
  ("rlm;", [0x200F]), ("rlhar;", [0x21CC]), ("rlarr;", [0x21C4]), ("risingdotseq;", [0x2253]),
  ("ring;", [0x2DA]), ("rightthreetimes;", [0x22CC]), ("rightsquigarrow;", [0x219D]),
  ("rightrightarrows;", [0x21C9]), ("rightleftharpoons;", [0x21CC]), ("rightleftarrows;", [0x21C4]),
  ("rightharpoonup;", [0x21C0]), ("rightharpoondown;", [0x21C1]), ("rightarrowtail;", [0x21A3]),
  ("rightarrow;", [0x2192]), ("rhov;", [0x3F1]), ("rho;", [0x3C1]), ("rharul;", [0x296C]),
  ("rharu;", [0x21C0]), ("rhard;", [0x21C1]), ("rfr;", [0x1D52F]), ("rfloor;", [0x230B]),
  ("rfisht;", [0x297D]), ("reg;", [0xAE]), ("reg", [0xAE]), ("rect;", [0x25AD]),
  ("reals;", [0x211D]), ("realpart;", [0x211C]), ("realine;", [0x211B]), ("real;", [0x211C]),
  ("rdsh;", [0x21B3]), ("rdquor;", [0x201D]), ("rdquo;", [0x201D]), ("rdldhar;", [0x2969]),
  ("rdca;", [0x2937]), ("rcy;", [0x440]), ("rcub;", [0x7D]), ("rceil;", [0x2309]),
  ("rcedil;", [0x157]), ("rcaron;", [0x159]), ("rbrkslu;", [0x2990]), ("rbrksld;", [0x298E]),
  ("rbrke;", [0x298C]), ("rbrack;", [0x5D]), ("rbrace;", [0x7D]), ("rbbrk;", [0x2773]),
  ("rbarr;", [0x290D]), ("rationals;", [0x211A]), ("ratio;", [0x2236]), ("ratail;", [0x291A]),
  ("rarrw;", [0x219D]), ("rarrtl;", [0x21A3]), ("rarrsim;", [0x2974]), ("rarrpl;", [0x2945]),
  ("rarrlp;", [0x21AC]), ("rarrhk;", [0x21AA]), ("rarrfs;", [0x291E]), ("rarrc;", [0x2933]),
  ("rarrbfs;", [0x2920]), ("rarrb;", [0x21E5]), ("rarrap;", [0x2975]), ("rarr;", [0x2192]),
  ("raquo;", [0xBB]), ("raquo", [0xBB]), ("rangle;", [0x27E9]), ("range;", [0x29A5]),
  ("rangd;", [0x2992]), ("rang;", [0x27E9]), ("raemptyv;", [0x29B3]), ("radic;", [0x221A]),
  ("racute;", [0x155]), ("race;", [0x223D, 0x331]), ("rHar;", [0x2964]), ("rBarr;", [0x290F]),
  ("rAtail;", [0x291C]), ("rArr;", [0x21D2]), ("rAarr;", [0x21DB])]

def smallS : List (String × List Nat) := [
  ("szlig;", [0xDF]), ("szlig", [0xDF]), ("swnwar;", [0x292A]), ("swarrow;", [0x2199]),
  ("swarr;", [0x2199]), ("swarhk;", [0x2926]), ("swArr;", [0x21D9]), ("supsup;", [0x2AD6]),
  ("supsub;", [0x2AD4]), ("supsim;", [0x2AC8]), ("supsetneqq;", [0x2ACC]), ("supsetneq;", [0x228B]),
  ("supseteqq;", [0x2AC6]), ("supseteq;", [0x2287]), ("supset;", [0x2283]), ("supplus;", [0x2AC0]),
  ("supne;", [0x228B]), ("supnE;", [0x2ACC]), ("supmult;", [0x2AC2]), ("suplarr;", [0x297B]),
  ("suphsub;", [0x2AD7]), ("suphsol;", [0x27C9]), ("supedot;", [0x2AC4]), ("supe;", [0x2287]),
  ("supdsub;", [0x2AD8]), ("supdot;", [0x2ABE]), ("supE;", [0x2AC6]), ("sup;", [0x2283]),
  ("sup3;", [0xB3]), ("sup3", [0xB3]), ("sup2;", [0xB2]), ("sup2", [0xB2]), ("sup1;", [0xB9]),
  ("sup1", [0xB9]), ("sung;", [0x266A]), ("sum;", [0x2211]), ("succsim;", [0x227F]),
  ("succnsim;", [0x22E9]), ("succneqq;", [0x2AB6]), ("succnapprox;", [0x2ABA]),
  ("succeq;", [0x2AB0]), ("succcurlyeq;", [0x227D]), ("succapprox;", [0x2AB8]), ("succ;", [0x227B]),
  ("subsup;", [0x2AD3]), ("subsub;", [0x2AD5]), ("subsim;", [0x2AC7]), ("subsetneqq;", [0x2ACB]),
  ("subsetneq;", [0x228A]), ("subseteqq;", [0x2AC5]), ("subseteq;", [0x2286]),
  ("subset;", [0x2282]), ("subrarr;", [0x2979]), ("subplus;", [0x2ABF]), ("subne;", [0x228A]),
  ("subnE;", [0x2ACB]), ("submult;", [0x2AC1]), ("subedot;", [0x2AC3]), ("sube;", [0x2286]),
  ("subdot;", [0x2ABD]), ("subE;", [0x2AC5]), ("sub;", [0x2282]), ("strns;", [0xAF]),
  ("straightphi;", [0x3D5]), ("straightepsilon;", [0x3F5]), ("starf;", [0x2605]),
  ("star;", [0x2606]), ("sstarf;", [0x22C6]), ("ssmile;", [0x2323]), ("ssetmn;", [0x2216]),
  ("sscr;", [0x1D4C8]), ("srarr;", [0x2192]), ("squf;", [0x25AA]), ("squarf;", [0x25AA]),
  ("square;", [0x25A1]), ("squ;", [0x25A1]), ("sqsupseteq;", [0x2292]), ("sqsupset;", [0x2290]),
  ("sqsupe;", [0x2292]), ("sqsup;", [0x2290]), ("sqsubseteq;", [0x2291]), ("sqsubset;", [0x228F]),
  ("sqsube;", [0x2291]), ("sqsub;", [0x228F]), ("sqcups;", [0x2294, 0xFE00]), ("sqcup;", [0x2294]),
  ("sqcaps;", [0x2293, 0xFE00]), ("sqcap;", [0x2293]), ("spar;", [0x2225]),
  ("spadesuit;", [0x2660]), ("spades;", [0x2660]), ("sopf;", [0x1D564]), ("solbar;", [0x233F]),
  ("solb;", [0x29C4]), ("sol;", [0x2F]), ("softcy;", [0x44C]), ("smtes;", [0x2AAC, 0xFE00]),
  ("smte;", [0x2AAC]), ("smt;", [0x2AAA]), ("smile;", [0x2323]), ("smid;", [0x2223]),
  ("smeparsl;", [0x29E4]), ("smashp;", [0x2A33]), ("smallsetminus;", [0x2216]),
  ("slarr;", [0x2190]), ("simrarr;", [0x2972]), ("simplus;", [0x2A24]), ("simne;", [0x2246]),
  ("simlE;", [0x2A9F]), ("siml;", [0x2A9D]), ("simgE;", [0x2AA0]), ("simg;", [0x2A9E]),
  ("simeq;", [0x2243]), ("sime;", [0x2243]), ("simdot;", [0x2A6A]), ("sim;", [0x223C]),
  ("sigmav;", [0x3C2]), ("sigmaf;", [0x3C2]), ("sigma;", [0x3C3]), ("shy;", [0xAD]),
  ("shy", [0xAD]), ("shortparallel;", [0x2225]), ("shortmid;", [0x2223]), ("shcy;", [0x448]),
  ("shchcy;", [0x449]), ("sharp;", [0x266F]), ("sfrown;", [0x2322]), ("sfr;", [0x1D530]),
  ("sext;", [0x2736]), ("setmn;", [0x2216]), ("setminus;", [0x2216]), ("seswar;", [0x2929]),
  ("semi;", [0x3B]), ("sect;", [0xA7]), ("sect", [0xA7]), ("searrow;", [0x2198]),
  ("searr;", [0x2198]), ("searhk;", [0x2925]), ("seArr;", [0x21D8]), ("sdote;", [0x2A66]),
  ("sdotb;", [0x22A1]), ("sdot;", [0x22C5]), ("scy;", [0x441]), ("scsim;", [0x227F]),
  ("scpolint;", [0x2A13]), ("scnsim;", [0x22E9]), ("scnap;", [0x2ABA]), ("scnE;", [0x2AB6]),
  ("scirc;", [0x15D]), ("scedil;", [0x15F]), ("sce;", [0x2AB0]), ("sccue;", [0x227D]),
  ("scaron;", [0x161]), ("scap;", [0x2AB8]), ("scE;", [0x2AB4]), ("sc;", [0x227B]),
  ("sbquo;", [0x201A]), ("sacute;", [0x15B])]

def smallT : List (String × List Nat) := [
  ("twoheadrightarrow;", [0x21A0]), ("twoheadleftarrow;", [0x219E]), ("twixt;", [0x226C]),
  ("tstrok;", [0x167]), ("tshcy;", [0x45B]), ("tscy;", [0x446]), ("tscr;", [0x1D4C9]),
  ("trpezium;", [0x23E2]), ("tritime;", [0x2A3B]), ("trisb;", [0x29CD]), ("triplus;", [0x2A39]),
  ("triminus;", [0x2A3A]), ("trie;", [0x225C]), ("tridot;", [0x25EC]),
  ("trianglerighteq;", [0x22B5]), ("triangleright;", [0x25B9]), ("triangleq;", [0x225C]),
  ("trianglelefteq;", [0x22B4]), ("triangleleft;", [0x25C3]), ("triangledown;", [0x25BF]),
  ("triangle;", [0x25B5]), ("trade;", [0x2122]), ("tprime;", [0x2034]), ("tosa;", [0x2929]),
  ("topfork;", [0x2ADA]), ("topf;", [0x1D565]), ("topcir;", [0x2AF1]), ("topbot;", [0x2336]),
  ("top;", [0x22A4]), ("toea;", [0x2928]), ("tint;", [0x222D]), ("timesd;", [0x2A30]),
  ("timesbar;", [0x2A31]), ("timesb;", [0x22A0]), ("times;", [0xD7]), ("times", [0xD7]),
  ("tilde;", [0x2DC]), ("thorn;", [0xFE]), ("thorn", [0xFE]), ("thksim;", [0x223C]),
  ("thkap;", [0x2248]), ("thinsp;", [0x2009]), ("thicksim;", [0x223C]), ("thickapprox;", [0x2248]),
  ("thetav;", [0x3D1]), ("thetasym;", [0x3D1]), ("theta;", [0x3B8]), ("therefore;", [0x2234]),
  ("there4;", [0x2234]), ("tfr;", [0x1D531]), ("telrec;", [0x2315]), ("tdot;", [0x20DB]),
  ("tcy;", [0x442]), ("tcedil;", [0x163]), ("tcaron;", [0x165]), ("tbrk;", [0x23B4]),
  ("tau;", [0x3C4]), ("target;", [0x2316])]

def smallU : List (String × List Nat) := [
  ("uwangle;", [0x29A7]), ("uuml;", [0xFC]), ("uuml", [0xFC]), ("uuarr;", [0x21C8]),
  ("utrif;", [0x25B4]), ("utri;", [0x25B5]), ("utilde;", [0x169]), ("utdot;", [0x22F0]),
  ("uscr;", [0x1D4CA]), ("urtri;", [0x25F9]), ("uring;", [0x16F]), ("urcrop;", [0x230E]),
  ("urcorner;", [0x231D]), ("urcorn;", [0x231D]), ("upuparrows;", [0x21C8]), ("upsilon;", [0x3C5]),
  ("upsih;", [0x3D2]), ("upsi;", [0x3C5]), ("uplus;", [0x228E]), ("upharpoonright;", [0x21BE]),
  ("upharpoonleft;", [0x21BF]), ("updownarrow;", [0x2195]), ("uparrow;", [0x2191]),
  ("uopf;", [0x1D566]), ("uogon;", [0x173]), ("uml;", [0xA8]), ("uml", [0xA8]), ("umacr;", [0x16B]),
  ("ultri;", [0x25F8]), ("ulcrop;", [0x230F]), ("ulcorner;", [0x231C]), ("ulcorn;", [0x231C]),
  ("uhblk;", [0x2580]), ("uharr;", [0x21BE]), ("uharl;", [0x21BF]), ("ugrave;", [0xF9]),
  ("ugrave", [0xF9]), ("ufr;", [0x1D532]), ("ufisht;", [0x297E]), ("udhar;", [0x296E]),
  ("udblac;", [0x171]), ("udarr;", [0x21C5]), ("ucy;", [0x443]), ("ucirc;", [0xFB]),
  ("ucirc", [0xFB]), ("ubreve;", [0x16D]), ("ubrcy;", [0x45E]), ("uarr;", [0x2191]),
  ("uacute;", [0xFA]), ("uacute", [0xFA]), ("uHar;", [0x2963]), ("uArr;", [0x21D1])]

def smallV : List (String × List Nat) := [
  ("vzigzag;", [0x299A]), ("vsupne;", [0x228B, 0xFE00]), ("vsupnE;", [0x2ACC, 0xFE00]),
  ("vsubne;", [0x228A, 0xFE00]), ("vsubnE;", [0x2ACB, 0xFE00]), ("vscr;", [0x1D4CB]),
  ("vrtri;", [0x22B3]), ("vprop;", [0x221D]), ("vopf;", [0x1D567]), ("vnsup;", [0x2283, 0x20D2]),
  ("vnsub;", [0x2282, 0x20D2]), ("vltri;", [0x22B2]), ("vfr;", [0x1D533]), ("vert;", [0x7C]),
  ("verbar;", [0x7C]), ("vellip;", [0x22EE]), ("veeeq;", [0x225A]), ("veebar;", [0x22BB]),
  ("vee;", [0x2228]), ("vdash;", [0x22A2]), ("vcy;", [0x432]), ("vartriangleright;", [0x22B3]),
  ("vartriangleleft;", [0x22B2]), ("vartheta;", [0x3D1]), ("varsupsetneqq;", [0x2ACC, 0xFE00]),
  ("varsupsetneq;", [0x228B, 0xFE00]), ("varsubsetneqq;", [0x2ACB, 0xFE00]),
  ("varsubsetneq;", [0x228A, 0xFE00]), ("varsigma;", [0x3C2]), ("varrho;", [0x3F1]),
  ("varr;", [0x2195]), ("varpropto;", [0x221D]), ("varpi;", [0x3D6]), ("varphi;", [0x3D5]),
  ("varnothing;", [0x2205]), ("varkappa;", [0x3F0]), ("varepsilon;", [0x3F5]),
  ("vangrt;", [0x299C]), ("vDash;", [0x22A8]), ("vBarv;", [0x2AE9]), ("vBar;", [0x2AE8]),
  ("vArr;", [0x21D5])]

def smallW : List (String × List Nat) := [
  ("wscr;", [0x1D4CC]), ("wreath;", [0x2240]), ("wr;", [0x2240]), ("wp;", [0x2118]),
  ("wopf;", [0x1D568]), ("wfr;", [0x1D534]), ("weierp;", [0x2118]), ("wedgeq;", [0x2259]),
  ("wedge;", [0x2227]), ("wedbar;", [0x2A5F]), ("wcirc;", [0x175])]

def smallX : List (String × List Nat) := [
  ("xwedge;", [0x22C0]), ("xvee;", [0x22C1]), ("xutri;", [0x25B3]), ("xuplus;", [0x2A04]),
  ("xsqcup;", [0x2A06]), ("xscr;", [0x1D4CD]), ("xrarr;", [0x27F6]), ("xrArr;", [0x27F9]),
  ("xotime;", [0x2A02]), ("xoplus;", [0x2A01]), ("xopf;", [0x1D569]), ("xodot;", [0x2A00]),
  ("xnis;", [0x22FB]), ("xmap;", [0x27FC]), ("xlarr;", [0x27F5]), ("xlArr;", [0x27F8]),
  ("xi;", [0x3BE]), ("xharr;", [0x27F7]), ("xhArr;", [0x27FA]), ("xfr;", [0x1D535]),
  ("xdtri;", [0x25BD]), ("xcup;", [0x22C3]), ("xcirc;", [0x25EF]), ("xcap;", [0x22C2])]

def smallY : List (String × List Nat) := [
  ("yuml;", [0xFF]), ("yuml", [0xFF]), ("yucy;", [0x44E]), ("yscr;", [0x1D4CE]),
  ("yopf;", [0x1D56A]), ("yicy;", [0x457]), ("yfr;", [0x1D536]), ("yen;", [0xA5]), ("yen", [0xA5]),
  ("ycy;", [0x44B]), ("ycirc;", [0x177]), ("yacy;", [0x44F]), ("yacute;", [0xFD]),
  ("yacute", [0xFD])]

def smallZ : List (String × List Nat) := [
  ("zwnj;", [0x200C]), ("zwj;", [0x200D]), ("zscr;", [0x1D4CF]), ("zopf;", [0x1D56B]),
  ("zigrarr;", [0x21DD]), ("zhcy;", [0x436]), ("zfr;", [0x1D537]), ("zeta;", [0x3B6]),
  ("zeetrf;", [0x2128]), ("zdot;", [0x17C]), ("zcy;", [0x437]), ("zcaron;", [0x17E]),
  ("zacute;", [0x17A])]

def groups : List (Char × List (String × List Nat)) := [
  ('A', capitalA), ('B', capitalB), ('C', capitalC), ('D', capitalD), ('E', capitalE),
  ('F', capitalF), ('G', capitalG), ('H', capitalH), ('I', capitalI), ('J', capitalJ),
  ('K', capitalK), ('L', capitalL), ('M', capitalM), ('N', capitalN), ('O', capitalO),
  ('P', capitalP), ('Q', capitalQ), ('R', capitalR), ('S', capitalS), ('T', capitalT),
  ('U', capitalU), ('V', capitalV), ('W', capitalW), ('X', capitalX), ('Y', capitalY),
  ('Z', capitalZ), ('a', smallA), ('b', smallB), ('c', smallC), ('d', smallD), ('e', smallE),
  ('f', smallF), ('g', smallG), ('h', smallH), ('i', smallI), ('j', smallJ), ('k', smallK),
  ('l', smallL), ('m', smallM), ('n', smallN), ('o', smallO), ('p', smallP), ('q', smallQ),
  ('r', smallR), ('s', smallS), ('t', smallT), ('u', smallU), ('v', smallV), ('w', smallW),
  ('x', smallX), ('y', smallY), ('z', smallZ)]

def characterGroups : List (Char × List (List Char × List Char)) :=
  groups.map fun (initial, names) =>
    (initial, names.map fun (name, codes) => (name.toList, codes.map Char.ofNat))

/-- The longest name that a text starts with: its characters and its length. -/
def ofText? (text : List Char) : Option (List Char × Nat) :=
  match text with
  | [] => none
  | initial :: _ =>
      match characterGroups.lookup initial with
      | none => none
      | some names => names.findSome? fun (name, characters) =>
          if name.isPrefixOf text then some (characters, name.length) else none

end Chronogram.Markup.NamedReference
