namespace LiveTable.Character.Script

def adlmRuns : List Nat := [125184, 76, 4, 10, 4, 2]

def aghbRuns : List Nat := [66864, 52, 11, 1]

def ahomRuns : List Nat := [71424, 27, 2, 15, 4, 23]

def arabRuns : List Nat := [
    1536, 5, 1, 6, 1, 14, 1, 3, 1, 32, 1, 10, 11, 26, 1, 108, 1, 34, 80, 48, 240, 31, 1, 2, 5, 75, 1,
    29, 62032, 115, 16, 363, 2, 80, 2, 54, 7, 1, 32, 16, 112, 5, 1, 135, 3939, 31, 67, 3, 55, 4, 57088,
    4, 1, 27, 1, 2, 1, 1, 2, 1, 1, 10, 1, 4, 1, 1, 1, 1, 6, 1, 4, 1, 1, 1, 1, 1, 1, 3, 1, 2, 1, 1, 2, 1,
    1, 1, 1, 1, 1, 1, 1, 1, 1, 2, 1, 1, 2, 4, 1, 7, 1, 4, 1, 4, 1, 1, 1, 10, 1, 17, 5, 3, 1, 5, 1, 17,
    52, 2]

def armiRuns : List Nat := [67648, 22, 1, 9]

def armnRuns : List Nat := [1329, 38, 2, 50, 2, 3, 62851, 5]

def avstRuns : List Nat := [68352, 54, 3, 7]

def baliRuns : List Nat := [6912, 77, 1, 50]

def bamuRuns : List Nat := [42656, 88, 49416, 569]

def bassRuns : List Nat := [92880, 30, 2, 6]

def batkRuns : List Nat := [7104, 52, 8, 4]

def bengRuns : List Nat := [
    2432, 4, 1, 8, 2, 2, 2, 22, 1, 7, 1, 1, 3, 4, 2, 9, 2, 2, 2, 4, 8, 1, 4, 2, 1, 5, 2, 25]

def bhksRuns : List Nat := [72704, 9, 1, 45, 1, 14, 10, 29]

def bopoRuns : List Nat := [746, 2, 11801, 43, 112, 32]

def brahRuns : List Nat := [69632, 78, 4, 36, 9, 1]

def braiRuns : List Nat := [10240, 256]

def bugiRuns : List Nat := [6656, 28, 2, 2]

def buhdRuns : List Nat := [5952, 20]

def cakmRuns : List Nat := [69888, 53, 1, 18]

def cansRuns : List Nat := [5120, 640, 560, 70, 65978, 16]

def cariRuns : List Nat := [66208, 49]

def chamRuns : List Nat := [43520, 55, 9, 14, 2, 10, 2, 4]

def cherRuns : List Nat := [5024, 86, 2, 6, 38770, 80]

def chrsRuns : List Nat := [69552, 28]

def coptRuns : List Nat := [994, 14, 10384, 116, 5, 7]

def cpmnRuns : List Nat := [77712, 99]

def cprtRuns : List Nat := [67584, 6, 2, 1, 1, 44, 1, 2, 3, 1, 2, 1]

def cyrlRuns : List Nat := [
    1024, 133, 2, 169, 5968, 11, 160, 1, 76, 1, 4199, 32, 30784, 96, 22414, 2, 57856, 62, 33, 1]

def devaRuns : List Nat := [2304, 81, 4, 15, 2, 26, 40800, 32, 29184, 10]

def diakRuns : List Nat := [71936, 7, 2, 1, 2, 8, 1, 2, 1, 30, 1, 2, 2, 12, 9, 10]

def dogrRuns : List Nat := [71680, 60]

def dsrtRuns : List Nat := [66560, 80]

def duplRuns : List Nat := [113664, 107, 5, 13, 3, 9, 7, 10, 2, 4]

def egypRuns : List Nat := [77824, 1110, 10, 3995]

def elbaRuns : List Nat := [66816, 40]

def elymRuns : List Nat := [69600, 23]

def ethiRuns : List Nat := [
    4608, 73, 1, 4, 2, 7, 1, 1, 1, 4, 2, 41, 1, 4, 2, 33, 1, 4, 2, 7, 1, 1, 1, 4, 2, 15, 1, 57, 1, 4, 2,
    67, 2, 32, 3, 26, 6630, 23, 9, 7, 1, 7, 1, 7, 1, 7, 1, 7, 1, 7, 1, 7, 1, 7, 32034, 6, 2, 6, 2, 6, 9,
    7, 1, 7, 81073, 7, 1, 4, 1, 2, 1, 15]

def garaRuns : List Nat := [68928, 38, 3, 29, 8, 2]

def georRuns : List Nat := [
    4256, 38, 1, 1, 5, 1, 2, 43, 1, 4, 2960, 43, 2, 3, 4160, 38, 1, 1, 5, 1]

def glagRuns : List Nat := [11264, 96, 111520, 7, 1, 17, 2, 7, 1, 2, 1, 5]

def gongRuns : List Nat := [73056, 6, 1, 2, 1, 37, 1, 2, 1, 6, 7, 10]

def gonmRuns : List Nat := [72960, 7, 1, 2, 1, 44, 3, 1, 1, 2, 1, 9, 8, 10]

def gothRuns : List Nat := [66352, 27]

def granRuns : List Nat := [
    70400, 4, 1, 8, 2, 2, 2, 22, 1, 7, 1, 2, 1, 5, 2, 9, 2, 2, 2, 3, 2, 1, 6, 1, 5, 7, 2, 7, 3, 5]

def grekRuns : List Nat := [
    880, 4, 1, 3, 2, 4, 1, 1, 4, 1, 1, 1, 1, 3, 1, 1, 1, 20, 1, 63, 14, 16, 6438, 5, 50, 5, 4, 5, 84, 1,
    320, 22, 2, 6, 2, 38, 2, 6, 2, 8, 1, 1, 1, 1, 1, 1, 1, 31, 2, 53, 1, 15, 1, 14, 2, 6, 1, 19, 2, 3,
    1, 9, 295, 1, 35390, 1, 21978, 79, 17, 1, 53343, 70]

def gujrRuns : List Nat := [
    2689, 3, 1, 9, 1, 3, 1, 22, 1, 7, 1, 2, 1, 5, 2, 10, 1, 3, 1, 3, 2, 1, 15, 4, 2, 12, 7, 7]

def gukhRuns : List Nat := [90368, 58]

def guruRuns : List Nat := [
    2561, 3, 1, 6, 4, 2, 2, 22, 1, 7, 1, 2, 1, 2, 1, 2, 2, 1, 1, 5, 4, 2, 2, 3, 3, 1, 7, 4, 1, 1, 7, 17]

def hangRuns : List Nat := [
    4352, 256, 7726, 2, 257, 94, 113, 31, 65, 31, 30433, 29, 643, 11172, 12, 23, 4, 49, 10148, 31, 3, 6,
    2, 6, 2, 6, 2, 3]

def haniRuns : List Nat := [
    11904, 26, 1, 89, 12, 214, 47, 1, 1, 1, 25, 9, 14, 4, 964, 6592, 64, 20992, 22784, 366, 2, 106,
    29960, 2, 12, 2, 36878, 42720, 32, 4154, 6, 222, 2, 5762, 14, 7473, 15, 622, 2466, 542, 1506, 4939,
    5, 4192]

def hanoRuns : List Nat := [5920, 21]

def hatrRuns : List Nat := [67808, 19, 1, 2, 5, 5]

def hebrRuns : List Nat := [1425, 55, 8, 27, 4, 6, 62760, 26, 1, 5, 1, 1, 1, 2, 1, 2, 1, 10]

def hiraRuns : List Nat := [12353, 86, 6, 3, 98145, 287, 18, 1, 29, 3, 16557, 1]

def hluwRuns : List Nat := [82944, 583]

def hmngRuns : List Nat := [92928, 70, 10, 10, 1, 7, 1, 21, 5, 19]

def hmnpRuns : List Nat := [123136, 45, 3, 14, 2, 10, 4, 2]

def hungRuns : List Nat := [68736, 51, 13, 51, 7, 6]

def italRuns : List Nat := [66304, 36, 9, 3]

def javaRuns : List Nat := [43392, 78, 2, 10, 4, 2]

def kaliRuns : List Nat := [43264, 46, 1, 1]

def kanaRuns : List Nat := [
    12449, 90, 2, 3, 240, 16, 208, 47, 1, 88, 52238, 10, 1, 45, 45138, 4, 1, 7, 1, 2, 1, 1, 287, 3, 50,
    1, 14, 4]

def kawiRuns : List Nat := [73472, 17, 1, 41, 3, 29]

def kharRuns : List Nat := [68096, 4, 1, 2, 5, 8, 1, 3, 1, 29, 2, 3, 4, 10, 7, 9]

def khmrRuns : List Nat := [6016, 94, 2, 10, 6, 10, 486, 32]

def khojRuns : List Nat := [70144, 18, 1, 47]

def kitsRuns : List Nat := [94180, 1, 6939, 470, 41, 1]

def kndaRuns : List Nat := [
    3200, 13, 1, 3, 1, 23, 1, 10, 1, 5, 2, 9, 1, 3, 1, 4, 7, 2, 6, 2, 1, 4, 2, 10, 1, 3]

def kraiRuns : List Nat := [93504, 58]

def kthiRuns : List Nat := [69760, 67, 10, 1]

def lanaRuns : List Nat := [6688, 63, 1, 29, 2, 11, 6, 10, 6, 14]

def laooRuns : List Nat := [
    3713, 2, 1, 1, 1, 5, 1, 24, 1, 1, 1, 23, 2, 5, 1, 1, 1, 7, 1, 10, 2, 4]

def latnRuns : List Nat := [
    65, 26, 6, 26, 47, 1, 15, 1, 5, 23, 1, 31, 1, 449, 39, 5, 6683, 38, 6, 49, 5, 4, 5, 13, 1, 70, 65,
    256, 369, 1, 13, 1, 16, 13, 141, 2, 6, 1, 27, 1, 17, 41, 2775, 32, 31394, 102, 3, 67, 2, 2, 1, 1, 1,
    8, 21, 14, 816, 43, 1, 9, 1, 4, 20374, 7, 1050, 26, 6, 26, 2085, 6, 1, 42, 1, 9, 55109, 31, 6, 6]

def lepcRuns : List Nat := [7168, 56, 3, 15, 3, 3]

def limbRuns : List Nat := [6400, 31, 1, 12, 4, 12, 4, 1, 3, 12]

def linaRuns : List Nat := [67072, 311, 9, 22, 10, 8]

def linbRuns : List Nat := [65536, 12, 1, 26, 1, 19, 1, 2, 1, 15, 2, 14, 34, 123]

def lisuRuns : List Nat := [42192, 48, 31408, 1]

def lyciRuns : List Nat := [66176, 29]

def lydiRuns : List Nat := [67872, 26, 5, 1]

def mahjRuns : List Nat := [69968, 39]

def makaRuns : List Nat := [73440, 25]

def mandRuns : List Nat := [2112, 28, 2, 1]

def maniRuns : List Nat := [68288, 39, 4, 12]

def marcRuns : List Nat := [72816, 32, 2, 22, 1, 14]

def medfRuns : List Nat := [93760, 91]

def mendRuns : List Nat := [124928, 197, 2, 16]

def mercRuns : List Nat := [68000, 24, 4, 20, 2, 46]

def meroRuns : List Nat := [67968, 32]

def mlymRuns : List Nat := [3328, 13, 1, 3, 1, 51, 1, 3, 1, 6, 4, 16, 2, 26]

def modiRuns : List Nat := [71168, 69, 11, 10]

def mongRuns : List Nat := [6144, 2, 2, 1, 1, 20, 6, 89, 7, 43, 64949, 13]

def mrooRuns : List Nat := [92736, 31, 1, 10, 4, 2]

def mteiRuns : List Nat := [43744, 23, 201, 46, 2, 10]

def multRuns : List Nat := [70272, 7, 1, 1, 1, 4, 1, 15, 1, 11]

def mymrRuns : List Nat := [4096, 160, 39232, 31, 97, 32, 27728, 20]

def nagmRuns : List Nat := [124112, 42]

def nandRuns : List Nat := [72096, 8, 2, 46, 2, 11]

def narbRuns : List Nat := [68224, 32]

def nbatRuns : List Nat := [67712, 31, 8, 9]

def newaRuns : List Nat := [70656, 92, 1, 5]

def nkooRuns : List Nat := [1984, 59, 2, 3]

def nshuRuns : List Nat := [94177, 1, 16782, 396]

def ogamRuns : List Nat := [5760, 29]

def olckRuns : List Nat := [7248, 48]

def onaoRuns : List Nat := [124368, 43, 4, 1]

def orkhRuns : List Nat := [68608, 73]

def oryaRuns : List Nat := [
    2817, 3, 1, 8, 2, 2, 2, 22, 1, 7, 1, 2, 1, 5, 2, 9, 2, 2, 2, 3, 7, 3, 4, 2, 1, 5, 2, 18]

def osgeRuns : List Nat := [66736, 36, 4, 36]

def osmaRuns : List Nat := [66688, 30, 2, 10]

def ougrRuns : List Nat := [69488, 26]

def palmRuns : List Nat := [67680, 32]

def paucRuns : List Nat := [72384, 57]

def permRuns : List Nat := [66384, 43]

def phagRuns : List Nat := [43072, 56]

def phliRuns : List Nat := [68448, 19, 5, 8]

def phlpRuns : List Nat := [68480, 18, 7, 4, 12, 7]

def phnxRuns : List Nat := [67840, 28, 3, 1]

def plrdRuns : List Nat := [93952, 75, 4, 57, 7, 17]

def prtiRuns : List Nat := [68416, 22, 2, 8]

def rjngRuns : List Nat := [43312, 36, 11, 1]

def rohgRuns : List Nat := [68864, 40, 8, 10]

def runrRuns : List Nat := [5792, 75, 3, 11]

def samrRuns : List Nat := [2048, 46, 2, 15]

def sarbRuns : List Nat := [68192, 32]

def saurRuns : List Nat := [43136, 70, 8, 12]

def sgnwRuns : List Nat := [120832, 652, 15, 5, 1, 15]

def shawRuns : List Nat := [66640, 48]

def shrdRuns : List Nat := [70016, 96]

def siddRuns : List Nat := [71040, 54, 2, 38]

def sindRuns : List Nat := [70320, 59, 5, 10]

def sinhRuns : List Nat := [
    3457, 3, 1, 18, 3, 24, 1, 9, 1, 1, 2, 7, 3, 1, 4, 6, 1, 1, 1, 8, 6, 10, 2, 3, 66540, 20]

def sogdRuns : List Nat := [69424, 42]

def sogoRuns : List Nat := [69376, 40]

def soraRuns : List Nat := [69840, 25, 7, 10]

def soyoRuns : List Nat := [72272, 83]

def sundRuns : List Nat := [7040, 64, 256, 8]

def sunuRuns : List Nat := [72640, 34, 14, 10]

def syloRuns : List Nat := [43008, 45]

def syrcRuns : List Nat := [1792, 14, 1, 60, 2, 3, 272, 11]

def tagbRuns : List Nat := [5984, 13, 1, 3, 1, 2]

def takrRuns : List Nat := [71296, 58, 6, 10]

def taleRuns : List Nat := [6480, 30, 2, 5]

def taluRuns : List Nat := [6528, 44, 4, 26, 6, 11, 3, 2]

def tamlRuns : List Nat := [
    2946, 2, 1, 6, 3, 3, 1, 4, 3, 2, 1, 1, 1, 2, 3, 2, 3, 3, 3, 12, 4, 5, 3, 3, 1, 4, 2, 1, 6, 1, 14,
    21, 70597, 50, 13, 1]

def tangRuns : List Nat := [94176, 1, 31, 6136, 8, 768, 512, 9]

def tavtRuns : List Nat := [43648, 67, 24, 5]

def teluRuns : List Nat := [
    3072, 13, 1, 3, 1, 23, 1, 16, 2, 9, 1, 3, 1, 4, 7, 2, 1, 3, 2, 1, 2, 4, 2, 10, 7, 9]

def tfngRuns : List Nat := [11568, 56, 7, 2, 14, 1]

def tglgRuns : List Nat := [5888, 22, 9, 1]

def thaaRuns : List Nat := [1920, 50]

def thaiRuns : List Nat := [3585, 58, 5, 28]

def tibtRuns : List Nat := [3840, 72, 1, 36, 4, 39, 1, 36, 1, 15, 1, 7, 4, 2]

def tirhRuns : List Nat := [70784, 72, 8, 10]

def tnsaRuns : List Nat := [92784, 79, 1, 10]

def todrRuns : List Nat := [67008, 52]

def totoRuns : List Nat := [123536, 31]

def tutgRuns : List Nat := [
    70528, 10, 1, 1, 2, 1, 1, 38, 1, 10, 1, 1, 2, 1, 1, 4, 1, 10, 1, 2, 8, 2]

def ugarRuns : List Nat := [66432, 30, 1, 1]

def vaiiRuns : List Nat := [42240, 300]

def vithRuns : List Nat := [66928, 11, 1, 15, 1, 7, 1, 2, 1, 11, 1, 15, 1, 7, 1, 2]

def waraRuns : List Nat := [71840, 83, 12, 1]

def wchoRuns : List Nat := [123584, 58, 5, 1]

def xpeoRuns : List Nat := [66464, 36, 4, 14]

def xsuxRuns : List Nat := [73728, 922, 102, 111, 1, 5, 11, 196]

def yeziRuns : List Nat := [69248, 42, 1, 3, 2, 2]

def yiiiRuns : List Nat := [40960, 1165, 3, 55]

def zanbRuns : List Nat := [72192, 72]

def zinhRuns : List Nat := [
    768, 112, 277, 2, 452, 11, 26, 1, 736, 4, 4443, 31, 513, 3, 1, 13, 1, 7, 4, 1, 6, 1, 3, 2, 198, 64,
    524, 2, 194, 33, 3897, 4, 107, 2, 52581, 16, 16, 14, 975, 1, 226, 1, 4186, 1, 48068, 46, 2, 23, 544,
    3, 17, 8, 2, 7, 30, 4, 798546, 240]

def zyyyRuns : List Nat := [
    0, 65, 26, 6, 26, 47, 1, 15, 1, 5, 23, 1, 31, 1, 449, 39, 5, 5, 2, 20, 116, 1, 9, 1, 6, 1, 1, 1,
    637, 1, 6, 1, 14, 1, 3, 1, 32, 1, 156, 1, 516, 1, 129, 2, 1241, 1, 405, 4, 290, 1, 1519, 3, 71, 2,
    203, 2, 1, 1, 1229, 1, 13, 1, 7, 4, 1, 6, 1, 3, 2, 1, 773, 12, 2, 87, 1, 11, 3, 11, 1, 15, 17, 33,
    63, 38, 1, 3, 2, 6, 1, 27, 1, 17, 41, 3, 4, 666, 22, 11, 21, 928, 256, 628, 2, 32, 1, 105, 512, 94,
    402, 21, 1, 1, 1, 25, 15, 8, 4, 4, 91, 2, 3, 1, 90, 2, 147, 16, 32, 38, 9, 1, 48, 64, 31, 81, 47, 1,
    88, 168, 6592, 64, 22784, 34, 102, 3, 165, 10, 244, 1, 160, 1, 395, 1, 14, 2, 20946, 2, 208, 10, 22,
    35, 1, 19, 1, 4, 147, 1, 1, 32, 26, 6, 26, 11, 10, 1, 45, 2, 64, 7, 1, 7, 10, 5, 258, 3, 4, 45, 3,
    9, 80, 13, 51, 45, 228, 27, 47524, 4, 3932, 250, 6, 436, 156, 116, 60, 246, 10, 39, 2, 62, 3, 17, 8,
    2, 7, 30, 4, 61, 213, 20, 12, 20, 12, 87, 9, 25, 135, 85, 1, 71, 1, 2, 2, 1, 2, 2, 2, 4, 1, 12, 1,
    1, 1, 7, 1, 65, 1, 4, 2, 8, 1, 7, 1, 28, 1, 4, 1, 5, 1, 1, 3, 7, 1, 340, 2, 292, 2, 50, 5233, 68,
    76, 61, 706, 44, 4, 100, 12, 15, 2, 15, 1, 15, 1, 37, 10, 174, 56, 26, 1, 2, 13, 44, 4, 9, 7, 2, 14,
    6, 154, 984, 4, 17, 3, 13, 3, 119, 4, 95, 6, 12, 4, 1, 15, 12, 4, 56, 8, 10, 6, 40, 8, 30, 2, 12, 4,
    2, 62, 340, 12, 14, 2, 13, 3, 10, 5, 56, 7, 15, 2, 11, 6, 9, 7, 147, 1, 102, 787463, 1, 30, 96]

def table : List (List String × List Nat) := [
  (["adlm", "adlam"], adlmRuns),
  (["aghb", "caucasianalbanian"], aghbRuns),
  (["ahom"], ahomRuns),
  (["arab", "arabic"], arabRuns),
  (["armi", "imperialaramaic"], armiRuns),
  (["armn", "armenian"], armnRuns),
  (["avst", "avestan"], avstRuns),
  (["bali", "balinese"], baliRuns),
  (["bamu", "bamum"], bamuRuns),
  (["bass", "bassavah"], bassRuns),
  (["batk", "batak"], batkRuns),
  (["beng", "bengali"], bengRuns),
  (["bhks", "bhaiksuki"], bhksRuns),
  (["bopo", "bopomofo"], bopoRuns),
  (["brah", "brahmi"], brahRuns),
  (["brai", "braille"], braiRuns),
  (["bugi", "buginese"], bugiRuns),
  (["buhd", "buhid"], buhdRuns),
  (["cakm", "chakma"], cakmRuns),
  (["cans", "canadianaboriginal"], cansRuns),
  (["cari", "carian"], cariRuns),
  (["cham"], chamRuns),
  (["cher", "cherokee"], cherRuns),
  (["chrs", "chorasmian"], chrsRuns),
  (["copt", "coptic", "qaac"], coptRuns),
  (["cpmn", "cyprominoan"], cpmnRuns),
  (["cprt", "cypriot"], cprtRuns),
  (["cyrl", "cyrillic"], cyrlRuns),
  (["deva", "devanagari"], devaRuns),
  (["diak", "divesakuru"], diakRuns),
  (["dogr", "dogra"], dogrRuns),
  (["dsrt", "deseret"], dsrtRuns),
  (["dupl", "duployan"], duplRuns),
  (["egyp", "egyptianhieroglyphs"], egypRuns),
  (["elba", "elbasan"], elbaRuns),
  (["elym", "elymaic"], elymRuns),
  (["ethi", "ethiopic"], ethiRuns),
  (["gara", "garay"], garaRuns),
  (["geor", "georgian"], georRuns),
  (["glag", "glagolitic"], glagRuns),
  (["gong", "gunjalagondi"], gongRuns),
  (["gonm", "masaramgondi"], gonmRuns),
  (["goth", "gothic"], gothRuns),
  (["gran", "grantha"], granRuns),
  (["grek", "greek"], grekRuns),
  (["gujr", "gujarati"], gujrRuns),
  (["gukh", "gurungkhema"], gukhRuns),
  (["guru", "gurmukhi"], guruRuns),
  (["hang", "hangul"], hangRuns),
  (["hani", "han"], haniRuns),
  (["hano", "hanunoo"], hanoRuns),
  (["hatr", "hatran"], hatrRuns),
  (["hebr", "hebrew"], hebrRuns),
  (["hira", "hiragana"], hiraRuns),
  (["hluw", "anatolianhieroglyphs"], hluwRuns),
  (["hmng", "pahawhhmong"], hmngRuns),
  (["hmnp", "nyiakengpuachuehmong"], hmnpRuns),
  (["hung", "oldhungarian"], hungRuns),
  (["ital", "olditalic"], italRuns),
  (["java", "javanese"], javaRuns),
  (["kali", "kayahli"], kaliRuns),
  (["kana", "katakana"], kanaRuns),
  (["kawi"], kawiRuns),
  (["khar", "kharoshthi"], kharRuns),
  (["khmr", "khmer"], khmrRuns),
  (["khoj", "khojki"], khojRuns),
  (["kits", "khitansmallscript"], kitsRuns),
  (["knda", "kannada"], kndaRuns),
  (["krai", "kiratrai"], kraiRuns),
  (["kthi", "kaithi"], kthiRuns),
  (["lana", "taitham"], lanaRuns),
  (["laoo", "lao"], laooRuns),
  (["latn", "latin"], latnRuns),
  (["lepc", "lepcha"], lepcRuns),
  (["limb", "limbu"], limbRuns),
  (["lina", "lineara"], linaRuns),
  (["linb", "linearb"], linbRuns),
  (["lisu"], lisuRuns),
  (["lyci", "lycian"], lyciRuns),
  (["lydi", "lydian"], lydiRuns),
  (["mahj", "mahajani"], mahjRuns),
  (["maka", "makasar"], makaRuns),
  (["mand", "mandaic"], mandRuns),
  (["mani", "manichaean"], maniRuns),
  (["marc", "marchen"], marcRuns),
  (["medf", "medefaidrin"], medfRuns),
  (["mend", "mendekikakui"], mendRuns),
  (["merc", "meroiticcursive"], mercRuns),
  (["mero", "meroitichieroglyphs"], meroRuns),
  (["mlym", "malayalam"], mlymRuns),
  (["modi"], modiRuns),
  (["mong", "mongolian"], mongRuns),
  (["mroo", "mro"], mrooRuns),
  (["mtei", "meeteimayek"], mteiRuns),
  (["mult", "multani"], multRuns),
  (["mymr", "myanmar"], mymrRuns),
  (["nagm", "nagmundari"], nagmRuns),
  (["nand", "nandinagari"], nandRuns),
  (["narb", "oldnortharabian"], narbRuns),
  (["nbat", "nabataean"], nbatRuns),
  (["newa"], newaRuns),
  (["nkoo", "nko"], nkooRuns),
  (["nshu", "nushu"], nshuRuns),
  (["ogam", "ogham"], ogamRuns),
  (["olck", "olchiki"], olckRuns),
  (["onao", "olonal"], onaoRuns),
  (["orkh", "oldturkic"], orkhRuns),
  (["orya", "oriya"], oryaRuns),
  (["osge", "osage"], osgeRuns),
  (["osma", "osmanya"], osmaRuns),
  (["ougr", "olduyghur"], ougrRuns),
  (["palm", "palmyrene"], palmRuns),
  (["pauc", "paucinhau"], paucRuns),
  (["perm", "oldpermic"], permRuns),
  (["phag", "phagspa"], phagRuns),
  (["phli", "inscriptionalpahlavi"], phliRuns),
  (["phlp", "psalterpahlavi"], phlpRuns),
  (["phnx", "phoenician"], phnxRuns),
  (["plrd", "miao"], plrdRuns),
  (["prti", "inscriptionalparthian"], prtiRuns),
  (["rjng", "rejang"], rjngRuns),
  (["rohg", "hanifirohingya"], rohgRuns),
  (["runr", "runic"], runrRuns),
  (["samr", "samaritan"], samrRuns),
  (["sarb", "oldsoutharabian"], sarbRuns),
  (["saur", "saurashtra"], saurRuns),
  (["sgnw", "signwriting"], sgnwRuns),
  (["shaw", "shavian"], shawRuns),
  (["shrd", "sharada"], shrdRuns),
  (["sidd", "siddham"], siddRuns),
  (["sind", "khudawadi"], sindRuns),
  (["sinh", "sinhala"], sinhRuns),
  (["sogd", "sogdian"], sogdRuns),
  (["sogo", "oldsogdian"], sogoRuns),
  (["sora", "sorasompeng"], soraRuns),
  (["soyo", "soyombo"], soyoRuns),
  (["sund", "sundanese"], sundRuns),
  (["sunu", "sunuwar"], sunuRuns),
  (["sylo", "sylotinagri"], syloRuns),
  (["syrc", "syriac"], syrcRuns),
  (["tagb", "tagbanwa"], tagbRuns),
  (["takr", "takri"], takrRuns),
  (["tale", "taile"], taleRuns),
  (["talu", "newtailue"], taluRuns),
  (["taml", "tamil"], tamlRuns),
  (["tang", "tangut"], tangRuns),
  (["tavt", "taiviet"], tavtRuns),
  (["telu", "telugu"], teluRuns),
  (["tfng", "tifinagh"], tfngRuns),
  (["tglg", "tagalog"], tglgRuns),
  (["thaa", "thaana"], thaaRuns),
  (["thai"], thaiRuns),
  (["tibt", "tibetan"], tibtRuns),
  (["tirh", "tirhuta"], tirhRuns),
  (["tnsa", "tangsa"], tnsaRuns),
  (["todr", "todhri"], todrRuns),
  (["toto"], totoRuns),
  (["tutg", "tulutigalari"], tutgRuns),
  (["ugar", "ugaritic"], ugarRuns),
  (["vaii", "vai"], vaiiRuns),
  (["vith", "vithkuqi"], vithRuns),
  (["wara", "warangciti"], waraRuns),
  (["wcho", "wancho"], wchoRuns),
  (["xpeo", "oldpersian"], xpeoRuns),
  (["xsux", "cuneiform"], xsuxRuns),
  (["yezi", "yezidi"], yeziRuns),
  (["yiii", "yi"], yiiiRuns),
  (["zanb", "zanabazarsquare"], zanbRuns),
  (["zinh", "inherited", "qaai"], zinhRuns),
  (["zyyy", "common"], zyyyRuns)]

end LiveTable.Character.Script
