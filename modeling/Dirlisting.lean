import Dirlisting.Basic
import Dirlisting.Sort
import Dirlisting.Render
import Dirlisting.SizeFormat
import Dirlisting.Scan
import Dirlisting.ScanWin32
import Dirlisting.ScanRun
import Dirlisting.MkdirRecursive
import Dirlisting.Page
import Dirlisting.Subrequest
import Dirlisting.Listing
import Dirlisting.Request
import Dirlisting.CacheFile
import Dirlisting.Worker
import Dirlisting.SortedListing
import Dirlisting.Truncation
import Dirlisting.Termination
import Dirlisting.CacheCheck
import Dirlisting.WriteQueue
import Dirlisting.Config
import Dirlisting.DirStream
import Dirlisting.Buffers
import Dirlisting.ResponseHeads
import Dirlisting.ResponseBody
